import Intake.Consumer.Dispatch
import Intake.Consumer.Lifecycle
import Intake.Consumer.Loop
import Intake.Source

/-!
# Consumers in their surroundings

One source of channels, the consumers that use it, the readers that wait for their output, and a
clock in milliseconds. Everything that can go on by itself is a task; a task is described by its
next step, which is none while it has to wait.
-/

namespace Intake

/-- The two output queues of a consumer. -/
inductive Side where
  | messages
  | errors
deriving DecidableEq, Repr

/-- What comes out of an output queue. -/
inductive Item (β : Type) where
  | message (m : Message β)
  | fault (f : Fault)
deriving DecidableEq, Repr

/-- How a reader's wait ended. -/
inductive Outcome (β : Type) where
  | got (item : Item β)
  | aborted
deriving DecidableEq, Repr

/-- One who waits for the next item of an output queue. -/
structure Reader (β : Type) where
  consumer : Nat
  side : Side
  /-- It has asked for the right to read. -/
  entered : Bool
  /-- It was told to give up. -/
  aborted : Bool
  outcome : Option (Outcome β)
  /-- The outcome was handed out. -/
  collected : Bool
deriving Repr

/-- A closure that comes some time after the deliveries ended. -/
structure LateClosure where
  channel : Nat
  closure : Closure
  due : Nat
  done : Bool
deriving DecidableEq, Repr

/-- What can go on by itself. -/
inductive Task where
  | loop (consumer : Nat)
  | dispatch (consumer number : Nat)
  | reader (k : Nat)
  | closure (k : Nat)
deriving DecidableEq, Repr

/-- The names under which a consumer's readings are kept. -/
structure Labels where
  queue : String
  consumer : String
deriving DecidableEq, Repr

structure World (β : Type) where
  now : Nat
  source : Source β
  consumers : List (Consumer β)
  readers : List (Reader β)
  closures : List LateClosure
  /-- The tasks that can go on, first come first served. -/
  turns : List Task
  /-- The consumers, those whose loops were served last at the end. -/
  rota : List Nat
  /-- What was logged and not shown yet, the last first. -/
  log : List LogEntry
  /-- All readings, the last first. -/
  readings : List (Labels × Meter)

namespace Consumer

variable {β : Type}

def labels (c : Consumer β) : Labels := ⟨c.settings.queue, c.settings.name⟩

/-- The log entries among what was noted. -/
def noted (c : Consumer β) : List LogEntry :=
  c.notes.filterMap fun note => match note with
    | .log e => some e
    | .meter _ => none

/-- The readings among what was noted. -/
def metered (c : Consumer β) : Readings :=
  c.notes.filterMap fun note => match note with
    | .meter m => some m
    | .log _ => none

/-- Ask for the right to read an output queue. -/
def enter (c : Consumer β) (side : Side) (reader : Nat) : Consumer β :=
  match side with
  | .messages => { c with messages := c.messages.enter reader }
  | .errors => { c with errors := c.errors.enter reader }

/-- Give up the right to read an output queue, or the place in line for it. -/
def quit (c : Consumer β) (side : Side) (reader : Nat) : Consumer β :=
  match side with
  | .messages => { c with messages := c.messages.leave reader }
  | .errors => { c with errors := c.errors.leave reader }

/-- The next item for the reader with the right to read. -/
def read? (c : Consumer β) (side : Side) (reader : Nat) : Option (Item β × Consumer β) :=
  match side with
  | .messages => (c.messages.read? reader).map fun (m, messages) => (.message m, { c with messages })
  | .errors => (c.errors.read? reader).map fun (f, errors) => (.fault f, { c with errors })

/-- The next item, unless there is none or a reader waits. -/
def take? (c : Consumer β) (side : Side) : Option (Item β × Consumer β) :=
  match side with
  | .messages => c.messages.take?.map fun (m, messages) => (.message m, { c with messages })
  | .errors => c.errors.take?.map fun (f, errors) => (.fault f, { c with errors })

/-- Discard what is on an output queue; how much there was. -/
def flush (c : Consumer β) (side : Side) : Nat × Consumer β :=
  match side with
  | .messages => c.flushMessages
  | .errors => c.flushErrors

/-- Items of an output queue until none is ready. -/
def takeAll (side : Side) : Nat → Consumer β → List (Item β) × Consumer β
  | 0, c => ([], c)
  | n + 1, c =>
    match c.take? side with
    | none => ([], c)
    | some (item, c) =>
      let (items, c) := takeAll side n c
      (item :: items, c)

/-- How many items are ready on an output queue. -/
def queued (c : Consumer β) (side : Side) : Nat :=
  match side with
  | .messages => c.messages.items.length
  | .errors => c.errors.items.length

end Consumer

namespace World

variable {β : Type}

def ofSource (source : Source β) (consumers : List (Consumer β)) : World β :=
  ⟨0, source, consumers, [], [], [], List.range consumers.length, [], []⟩

/-- Put a changed consumer in its place and collect what it noted. -/
def setConsumer (w : World β) (i : Nat) (c : Consumer β) : World β :=
  { w with
    consumers := w.consumers.set i { c with notes := [] }
    log := c.noted.reverse ++ w.log
    readings := (c.metered.map (c.labels, ·)).reverse ++ w.readings }

/-- The readings under some names, in the order they were taken. -/
def readingsOf (w : World β) (labels : Labels) : Readings :=
  (w.readings.filterMap fun (other, m) => if other = labels then some m else none).reverse

/-- The number under which the reader `k` is known to the queues; zero is for a reader that is no
task. -/
def readerNumber (k : Nat) : Nat := k + 1

/-! ## The steps of tasks -/

/-- What the source answers to the demand of a loop, and the source after it. -/
def answer (w : World β) (i : Nat) (c : Consumer β) : Answer β × Source β :=
  match c.demand with
  | .nothing => (.nothing, w.source)
  | .lease =>
    match w.source.request w.now i with
    | (some result, source) => (.leased result, source)
    | (none, source) => (.nothing, source)
  | .limit channel prefetch =>
    let (result, source) := w.source.limit channel prefetch false
    (.done result, source)
  | .subscribe channel =>
    let (result, source) := w.source.subscribe channel
      ⟨c.settings.queue, c.settings.name, c.settings.terms, c.settings.arguments⟩
    (.done result, source)
  | .look channel =>
    (.seen (w.source.notices channel).glance (w.source.deliveries channel).glance, w.source)
  | .release channel errored => (.done (.ok ()), w.source.release channel errored)

/-- Take off the feeds of a channel what a step took. -/
def takeOff (source : Source β) (channel : Option Channel) (taken : Consumer.Taken) : Source β :=
  match channel, taken with
  | some channel, .notice => source.withNotices channel Feed.drop
  | some channel, .arrival => source.withDeliveries channel Feed.drop
  | _, _ => source

/-- Give up the feeds that a loop no longer holds. -/
def giveUp (source : Source β) (old new : Phase) : Source β :=
  let source :=
    match old.receiving? with
    | some channel =>
      if new.receiving? = some channel then source
      else source.withDeliveries channel Feed.ignore
    | none => source
  match old.listening? with
  | some channel =>
    if new.listening? = some channel then source else source.withNotices channel Feed.ignore
  | none => source

/-- One step of the loop of a consumer. A lease that takes its time is asked for once. -/
def loop? (w : World β) (i : Nat) : Option (World β) :=
  w.consumers[i]?.bind fun c =>
    let (answer, source) := w.answer i c
    match c.proceed? w.now answer with
    | some next =>
      let source := takeOff source c.phase.receiving? (c.takes answer)
      some ({ w with source := giveUp source c.phase next.phase }.setConsumer i next)
    | none =>
      if c.demand = .lease ∧ (w.source.due? i).isNone then some { w with source } else none

/-- One step of a dispatched delivery. -/
def dispatch? (w : World β) (i number : Nat) : Option (World β) :=
  w.consumers[i]?.bind fun c => (c.forward? number).map (w.setConsumer i)

def setReader (w : World β) (k : Nat) (r : Reader β) : World β :=
  { w with readers := w.readers.set k r }

/-- One step of a reader: it asks for the right to read, takes an item, or gives up. -/
def reader? (w : World β) (k : Nat) : Option (World β) :=
  w.readers[k]?.bind fun r =>
    w.consumers[r.consumer]?.bind fun c =>
      let number := readerNumber k
      if r.outcome.isSome then none
      else if r.aborted then
        let w := w.setReader k { r with outcome := some .aborted }
        some (if r.entered then w.setConsumer r.consumer (c.quit r.side number) else w)
      else if r.entered then
        (c.read? r.side number).map fun (item, c) =>
          (w.setReader k { r with outcome := some (.got item) }).setConsumer r.consumer c
      else
        some ((w.setReader k { r with entered := true }).setConsumer r.consumer
          (c.enter r.side number))

/-- A late closure that is due closes its channel. -/
def closure? (w : World β) (k : Nat) : Option (World β) :=
  w.closures[k]?.bind fun late =>
    match w.source with
    | .broker b =>
      if !late.done ∧ late.due ≤ w.now then
        some { w with
          source := .broker (b.close late.channel late.closure)
          closures := w.closures.set k { late with done := true } }
      else none
    | .script _ => none

/-- The next step of a task; none while it has to wait. -/
def step? (w : World β) : Task → Option (World β)
  | .loop i => w.loop? i
  | .dispatch i number => w.dispatch? i number
  | .reader k => w.reader? k
  | .closure k => w.closure? k

/-- All tasks there are. Those that put something into a queue come before those that take
something out, and these before the loops; of two loops the one that waits longer comes first. -/
def tasks (w : World β) : List Task :=
  (w.consumers.zipIdx.flatMap fun (c, i) => c.dispatches.map fun d => Task.dispatch i d.number) ++
    (List.range w.readers.length).map .reader ++
    w.rota.map .loop ++
    (List.range w.closures.length).map .closure

/-- The instants that something waits for. -/
def timers (w : World β) : List Nat :=
  w.consumers.filterMap (·.phase.resumeAt?) ++ w.source.dueTimes ++
    (w.closures.filter (!·.done)).map (·.due)

/-- The next instant that something waits for. -/
def nextTimer? (w : World β) : Option Nat := (w.timers.filter (w.now < ·)).min?

end World

end Intake
