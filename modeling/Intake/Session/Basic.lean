import Intake.Session.Move
import Intake.Session.Schedule

/-!
# Sessions

A session drives consumers and their source step by step. Nothing goes on by itself during a step
or between two of them: only the steps that settle, or let time pass, serve the tasks.
-/

namespace Intake

structure Session (β : Type) where
  world : World β
  /-- The consumer that steps are about. -/
  current : Nat
  /-- The channels leased directly. -/
  hosts : List Channel
  /-- Every message that was returned, in order. -/
  held : List (Message β)

/-- What shows of a session between two steps. -/
structure Snapshot where
  now : Nat
  /-- Of the current consumer: started, stopping, in flight, messages and errors queued. -/
  consumer : Option (Bool × Bool × Nat × Nat × Nat)
  /-- Of a broker: leases, subscribers, ready bodies and the active channel. -/
  broker : Option (Nat × Nat × Nat × Option Nat)
deriving DecidableEq, Repr

namespace Session

variable {β : Type}

/-- The consumers of a session share its source and its pool. -/
def create (source : Source β) (pool : PoolSettings) (consumers : List ConsumerSettings) :
    Except SetupFault (Session β) := do
  let consumers ← consumers.mapM fun settings => Consumer.create settings pool
  return ⟨.ofSource source consumers, 0, [], []⟩

def consumer? (s : Session β) : Option (Consumer β) := s.world.consumers[s.current]?

def snapshot (s : Session β) : Snapshot where
  now := s.world.now
  consumer := s.consumer?.map fun c =>
    (c.started, c.stopRequested, c.inFlight, c.messages.length, c.errors.length)
  broker := match s.world.source with
    | .broker b => some (b.leases, b.subscribers, b.ready.length, b.active)
    | .script _ => none

/-- The log entries since they were last shown. -/
def collectLog (s : Session β) : List LogEntry × Session β :=
  (s.world.log.reverse, { s with world := { s.world with log := [] } })

/-! ## Parts of steps -/

def setWorld (s : Session β) (w : World β) : Session β := { s with world := w }

def setSource (s : Session β) (source : Source β) : Session β :=
  s.setWorld { s.world with source }

/-- Put the changed current consumer in its place. -/
def setConsumer (s : Session β) (c : Consumer β) : Session β :=
  s.setWorld (s.world.setConsumer s.current c)

/-- Keep the messages among returned items. -/
def hold (s : Session β) (items : List (Item β)) : Session β :=
  { s with held := s.held ++ items.filterMap fun item => match item with
      | .message m => some m
      | .fault _ => none }

/-- A step is done: its reply, and the session with the tasks that it woke. -/
def reply (s : Session β) (r : Reply β) : Reply β × Session β :=
  (r, { s with world := s.world.wake })

/-- A step is done and shows no body. -/
def answer (s : Session β) (p : Plain) : Reply β × Session β := s.reply (.plain p)

/-- A step about the current consumer. -/
def withConsumer (s : Session β) (act : Consumer β → Reply β × Session β) : Reply β × Session β :=
  match s.consumer? with
  | some c => act c
  | none => s.answer (.refused .consumer)

/-- A step that only changes the current consumer. -/
def onConsumer (s : Session β) (act : Consumer β → Plain × Consumer β) : Reply β × Session β :=
  s.withConsumer fun c =>
    let (p, c) := act c
    (s.setConsumer c).answer p

/-- A step about a channel leased directly. -/
def onHost (s : Session β) (host : Nat) (act : Channel → Source β → Reply β × Source β) :
    Reply β × Session β :=
  match s.hosts[host]? with
  | none => s.answer (.refused .host)
  | some channel =>
    let (r, source) := act channel s.world.source
    (s.setSource source).reply r

/-- A step that only changes the broker. -/
def onBroker (s : Session β) (act : Broker β → Plain × Broker β) : Reply β × Session β :=
  match s.world.source with
  | .broker b =>
    let (p, b) := act b
    (s.setSource (.broker b)).answer p
  | .script _ => s.answer (.refused .step)

/-- A step that only changes the script. -/
def onScript (s : Session β) (act : Script β → Plain × Script β) : Reply β × Session β :=
  match s.world.source with
  | .broker _ => s.answer (.refused .step)
  | .script script =>
    let (p, script) := act script
    (s.setSource (.script script)).answer p

/-- A step that waits at most so many milliseconds: whether something held in time. -/
def waitFor (s : Session β) (ms : Nat) (holds : World β → Bool) : Reply β × Session β :=
  let (held, w) := s.world.waitFor ms holds
  (s.setWorld w).answer (.truth held)

end Session

/-- The answer of a call that may fail. -/
def Plain.ofCall : Except ChannelFault Unit → Plain
  | .ok () => .word "ok"
  | .error cause => .channelFault cause

/-- The answer of a start or a stop. -/
def Plain.ofChange : Except Fault Unit → Plain
  | .ok () => .word "ok"
  | .error cause => .fault cause

/-- The number of a channel, if there was one. -/
def Plain.ofId : Option Nat → Plain
  | some id => .count id
  | none => .nothing

end Intake
