/-!
# The allowance of deliveries in flight

A consumer may have only so many deliveries in flight at once. Each of them holds a permit; one
more is reserved before the next delivery is looked for. A returned permit goes to a reservation
that waits for one, else it is free.
-/

namespace Intake

/-- The reservation of a permit for the next delivery. -/
inductive Reservation where
  | none
  /-- No permit was free; the next one returned is taken. -/
  | waiting
  | held
deriving DecidableEq, Repr

structure Allowance where
  /-- Permits that nobody holds. -/
  free : Nat
  reservation : Reservation
  /-- Deliveries in flight. -/
  inFlight : Nat
deriving DecidableEq, Repr

namespace Allowance

/-- The most permits there can be. -/
def mostPermits : Nat := Nat.pow 2 61 - 1

/-- The permits for a limit: at least one, and not more than there can be. -/
def permits (limit : Nat) : Nat := min (max limit 1) mostPermits

def ofLimit (limit : Nat) : Allowance := ⟨permits limit, .none, 0⟩

/-- Reserve a permit for the next delivery, unless that is done already. -/
def request (a : Allowance) : Allowance :=
  match a.reservation with
  | .none =>
    if 0 < a.free then { a with free := a.free - 1, reservation := .held }
    else { a with reservation := .waiting }
  | .waiting | .held => a

/-- Give up the reservation, and the permit if it held one. -/
def cancel (a : Allowance) : Allowance :=
  match a.reservation with
  | .none => a
  | .waiting => { a with reservation := .none }
  | .held => { a with free := a.free + 1, reservation := .none }

/-- A delivery came: it takes over the permit of the reservation. -/
def track (a : Allowance) : Allowance := { a with reservation := .none, inFlight := a.inFlight + 1 }

/-- A delivery is no longer in flight: its permit returns. -/
def finish (a : Allowance) : Allowance :=
  match a.reservation with
  | .waiting => { a with reservation := .held, inFlight := a.inFlight - 1 }
  | .none | .held => { a with free := a.free + 1, inFlight := a.inFlight - 1 }

end Allowance

end Intake
