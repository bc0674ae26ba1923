import Intake.Time.Duration

/-!
# Waiting with a time limit

Helpers that give up after a while. The clock starts at zero. What is waited for is looked at
before the limit, so that it counts when both come at one instant.
-/

namespace Intake

/-- How a wait ended: how often the condition was checked, the time, and the text of the failure
if it was not met. -/
structure Waited where
  calls : Nat
  time : Nat
  failure : Option String
deriving DecidableEq, Repr

/-- The pause between two checks of a condition. -/
def pollInterval : Nat := 10

/-- The instant a time limit ends, in milliseconds. A limit beyond the clock's range counts as
thirty years. -/
def Duration.deadline (d : Duration) : Nat :=
  if d.seconds < Nat.pow 2 63 then d.millisUp else 30 * 365 * 86400 * 1000

/-- Check a condition at once and then after each pause until it holds or the limit has passed:
the number of checks made, the time, and whether it held. `calls` checks were made before `time`. -/
def poll (holds : Nat → Bool) (limit calls time : Nat) : Nat × Nat × Bool :=
  if holds (calls + 1) then (calls + 1, time, true)
  else if time + pollInterval ≤ limit then poll holds limit (calls + 1) (time + pollInterval)
  else (calls + 1, limit, false)
termination_by limit - time
decreasing_by simp only [pollInterval] at *; omega

/-- Wait for a condition that is told how often it was checked. -/
def eventually (timeout : Duration) (context : String) (holds : Nat → Bool) : Waited :=
  let (calls, time, held) := poll holds timeout.deadline 0 0
  ⟨calls, time,
    if held then none else some (context ++ ": condition not met within " ++ timeout.describe)⟩

/-- Wait for work that takes so many milliseconds, or never ends. -/
def within (timeout : Duration) (context : String) (takes : Option Nat) : Waited :=
  match takes.filter (· ≤ timeout.deadline) with
  | some time => ⟨0, time, none⟩
  | none => ⟨0, timeout.deadline, some (context ++ ": timed out after " ++ timeout.describe)⟩

/-- A value that has to be there; without it, the text of the failure. -/
def require {α : Type} (context : String) : Option α → Except String α
  | some a => .ok a
  | none => .error (context ++ ": expected Some, got None")

end Intake
