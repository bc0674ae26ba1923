import Intake.Consumer.Basic

/-!
# Dispatched deliveries

A dispatched delivery goes to the queue of messages as soon as it has a slot there, then it is no
longer in flight.
-/

namespace Intake

namespace Consumer

variable {β : Type}

def dispatch? (c : Consumer β) (number : Nat) : Option (Dispatch β) :=
  c.dispatches.find? (·.number == number)

/-- A delivery is in the queue of messages: it is no longer in flight. -/
def arrived (c : Consumer β) (number : Nat) (messages : Queue (Message β)) : Consumer β :=
  let c := { c with
    messages
    dispatches := c.dispatches.filter (·.number != number) }.meter .messageEnqueued
  let c := { c with allowance := c.allowance.finish }
  c.meter (.inFlight c.inFlight)

/-- The next step of a dispatched delivery: into its slot, or into the line for one. None while it
waits in the line. -/
def forward? (c : Consumer β) (number : Nat) : Option (Consumer β) :=
  (c.dispatch? number).bind fun d =>
    if number ∈ c.messages.granted then some (c.arrived number (c.messages.fill number d.message))
    else if number ∈ c.messages.waiting then none
    else
      match c.messages.push? d.message with
      | some messages => some (c.arrived number messages)
      | none => some { c with messages := c.messages.await number }

end Consumer

end Intake
