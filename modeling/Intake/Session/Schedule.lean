import Intake.Session.World

/-!
# The schedule

Tasks that can go on stand in one line and are served first come first served; a task keeps its
turn until it has to wait. The clock stands still while any task can go on, then moves to the next
instant that something waits for.
-/

namespace Intake

namespace World

variable {β : Type}

/-- Put the tasks that have become able to go on at the end of the line. -/
def wake (w : World β) : World β :=
  { w with turns := w.turns ++
      w.tasks.filter fun task => !w.turns.contains task && (w.step? task).isSome }

/-- The first task in line has had its turn. -/
def endTurn (w : World β) (task : Task) (rest : List Task) : World β :=
  { w with
    turns := rest
    rota := match task with
      | .loop i => w.rota.erase i ++ [i]
      | _ => w.rota }

/-- One step of the first task in line, or the end of its turn. None when nobody is in line. -/
def tick? (w : World β) : Option (World β) :=
  match w.turns with
  | [] => none
  | task :: rest =>
    match w.step? task with
    | some next => some next.wake
    | none => some (w.endTurn task rest)

/-- Serve the line for at most so many steps. -/
def serve : Nat → World β → World β
  | 0, w => w
  | n + 1, w =>
    match w.tick? with
    | some next => serve n next
    | none => w

/-- More steps than tasks take before they all have to wait. -/
def patience : Nat := 1000000

/-- Let tasks go on until all of them have to wait. -/
def settle (w : World β) : World β := serve patience w.wake

/-- Move the clock. -/
def moveTo (w : World β) (instant : Nat) : World β := { w with now := instant }

/-- Let time pass until an instant, stopping at each one that something waits for. The number
bounds the stops. -/
def elapse (instant : Nat) : Nat → World β → World β
  | 0, w => (w.moveTo instant).settle
  | n + 1, w =>
    match w.nextTimer?.filter (· ≤ instant) with
    | some timer => elapse instant n (w.moveTo timer).settle
    | none => (w.moveTo instant).settle

/-- Let time pass until an instant. Each stop takes a millisecond at least. -/
def passTo (w : World β) (instant : Nat) : World β :=
  let w := w.settle
  elapse instant (instant - w.now) w

/-- Let so many milliseconds pass. -/
def advance (w : World β) (ms : Nat) : World β := w.passTo (w.now + ms)

/-- Look at the world again and again until `look` is content or a deadline passes. What it looks
at settles before each look, except at the deadline itself, where the look comes first. The number
bounds the looks. -/
def watch {σ : Type} (look : σ → World β → Bool × σ × World β) (deadline : Nat) :
    Nat → σ → World β → Bool × σ × World β
  | 0, s, w => (false, s, w)
  | n + 1, s, w =>
    let (content, s, w) := look s w
    if content then (true, s, w)
    else if deadline ≤ w.now then (false, s, w)
    else
      let w := w.wake
      if !w.turns.isEmpty then watch look deadline n s w.settle
      else
        match w.nextTimer?.filter (· < deadline) with
        | some timer => watch look deadline n s (w.moveTo timer).settle
        | none => watch look deadline n s (w.moveTo deadline)

/-- Wait at most so many milliseconds for something to hold; whether it did. -/
def waitFor (w : World β) (ms : Nat) (holds : World β → Bool) : Bool × World β :=
  let w := w.settle
  let (held, _, w) := watch (fun (_ : Unit) w => (holds w, (), w)) (w.now + ms) (ms + 1) () w
  (held, w.settle)

/-- The number under which the reader that collects items is known to the queues. -/
def collector : Nat := 0

/-- What a collector of `n` items does when it gets its chance: it takes items for as long as it
has the right to read and there are any. -/
def collect (i : Nat) (side : Side) : Nat → List (Item β) → World β → Bool × List (Item β) × World β
  | 0, items, w => (true, items, w)
  | n + 1, items, w =>
    match w.consumers[i]? with
    | none => (false, items, w)
    | some c =>
      let entered : Bool := match side with
        | .messages => c.messages.holder = some collector || c.messages.line.contains collector
        | .errors => c.errors.holder = some collector || c.errors.line.contains collector
      let c := if entered then c else c.enter side collector
      match c.read? side collector with
      | none => (false, items, w.setConsumer i c)
      | some (item, c) => collect i side n (items ++ [item]) (w.setConsumer i c)

/-- Wait at most so many milliseconds for `n` items of an output queue. What was taken when the
time is up is lost. -/
def waitItems (w : World β) (i : Nat) (side : Side) (n ms : Nat) :
    Option (List (Item β)) × World β :=
  let w := w.settle
  let look (items : List (Item β)) (w : World β) := collect i side (n - items.length) items w
  let (complete, items, w) := watch look (w.now + ms) (ms + n + 1) [] w
  if complete then (some items, w.settle)
  else
    let w :=
      match w.consumers[i]? with
      | some c => w.setConsumer i (c.quit side collector)
      | none => w
    (none, w.settle)

end World

end Intake
