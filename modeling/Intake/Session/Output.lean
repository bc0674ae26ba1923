import Intake.Session.Basic

/-!
# The output queues in a session

Items are taken at once, waited for, or left to a reader that waits on its own. What a reader got
is handed out once.
-/

namespace Intake

namespace Session

variable {β : Type}

/-- Take one item of an output queue of the current consumer. -/
def take (s : Session β) (side : Side) : Reply β × Session β :=
  s.withConsumer fun c =>
    match c.take? side with
    | none => s.answer .nothing
    | some (item, c) => ((s.setConsumer c).hold [item]).reply (.item item)

/-- Take items of an output queue of the current consumer until there is none. -/
def takeAll (s : Session β) (side : Side) : Reply β × Session β :=
  s.withConsumer fun c =>
    let (items, c) := c.takeAll side (c.queued side)
    ((s.setConsumer c).hold items).reply (.items items)

/-- Wait for several items of an output queue of the current consumer. -/
def waitItems (s : Session β) (side : Side) (n ms : Nat) : Reply β × Session β :=
  s.withConsumer fun _ =>
    let (items, w) := s.world.waitItems s.current side n ms
    match items with
    | some items => ((s.setWorld w).hold items).reply (.items items)
    | none => (s.setWorld w).answer (.timedOut n)

/-- Let a reader wait for the next item of an output queue of the current consumer. -/
def wait (s : Session β) (side : Side) : Reply β × Session β :=
  s.withConsumer fun _ =>
    let reader : Reader β := ⟨s.current, side, false, false, none, false⟩
    (s.setWorld { s.world with readers := s.world.readers ++ [reader] }).answer
      (.count s.world.readers.length)

/-- What became of a reader. -/
def waited (s : Session β) (k : Nat) : Reply β × Session β :=
  match s.world.readers[k]? with
  | none => s.answer (.refused .waiter)
  | some r =>
    if r.collected then s.answer (.word "taken")
    else
      let handed := s.setWorld (s.world.setReader k { r with collected := true })
      match r.outcome with
      | none => s.answer (.word "pending")
      | some .aborted => handed.answer (.word "aborted")
      | some (.got item) => (handed.hold [item]).reply (.item item)

/-- Tell a reader to give up, unless it is done. -/
def abort (s : Session β) (k : Nat) : Reply β × Session β :=
  match s.world.readers[k]? with
  | none => s.answer (.refused .waiter)
  | some r =>
    if r.collected then s.answer (.refused .waiter)
    else (s.setWorld (s.world.setReader k { r with aborted := true })).answer .nothing

end Session

end Intake
