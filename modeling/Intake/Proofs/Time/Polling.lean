import Mathlib.Algebra.Order.Floor.Div
import Intake.Time.Polling

/-!
# Polling against the clock

A condition is checked at once and then every ten milliseconds until the time limit, so its k-th
check is at ten times k - 1, and there are as many checks as such instants up to the limit. A check
at the limit itself still counts.
-/

namespace Intake

/-- The condition holds at its `k`-th check and at none before it. -/
structure FirstHolds (holds : Nat → Bool) (k : Nat) : Prop where
  pos : 1 ≤ k
  held : holds k = true
  before : ∀ j, 1 ≤ j → j < k → holds j = false

/-- A limit on the clock ends after the fewest whole milliseconds that cover it. -/
private theorem Duration.deadline_eq_ceilDiv {d : Duration} (onClock : d.seconds < 2 ^ 63) :
    d.deadline = (d.seconds * 10 ^ 9 + d.nanos) ⌈/⌉ 10 ^ 6 := by
  have within : d.deadline = d.millisUp := if_pos onClock
  rw [within, millisUp, Nat.ceilDiv_eq_add_pred_div]
  omega

section

variable {holds : Nat → Bool} {limit calls time k : Nat}

/-- A condition is found to hold at the first check at which it does, if that comes in time. -/
theorem poll_of_first (first : FirstHolds holds k) (inTime : pollInterval * (k - 1) ≤ limit)
    (steady : time = pollInterval * calls) (fewer : calls < k) :
    poll holds limit calls time = (k, pollInterval * (k - 1), true) := by
  have pos := first.pos
  fun_induction poll holds limit calls time with
  | case1 calls time held =>
    have now : calls + 1 = k := by
      by_contra other
      have notYet := first.before (calls + 1) (by omega) (by omega)
      exact absurd held (by simp [notYet])
    rw [steady, ← now, Nat.add_sub_cancel]
  | case2 calls time notYet pause ih =>
    refine ih ?_ ?_
    · rw [steady, Nat.mul_succ]
    · have other : calls + 1 ≠ k := fun same => notYet (same ▸ first.held)
      omega
  | case3 calls time notYet done =>
    have other : calls + 1 ≠ k := fun same => notYet (same ▸ first.held)
    simp only [pollInterval] at *
    omega

/-- A condition that holds at no check in time is given up at the limit, after all of these. -/
theorem poll_of_none (never : ∀ j, 1 ≤ j → pollInterval * (j - 1) ≤ limit → holds j = false)
    (steady : time = pollInterval * calls) (inTime : time ≤ limit) :
    poll holds limit calls time = (limit / pollInterval + 1, limit, false) := by
  fun_induction poll holds limit calls time with
  | case1 calls time held =>
    have notNow := never (calls + 1) (by omega) (by rwa [Nat.add_sub_cancel, ← steady])
    exact absurd held (by simp [notNow])
  | case2 calls time notYet pause ih => exact ih (by rw [steady, Nat.mul_succ]) pause
  | case3 calls time notYet done =>
    have last : calls = limit / pollInterval := by
      simp only [pollInterval] at *
      omega
    rw [last]

end

/-- How a wait ends whose condition was checked at every tenth millisecond of a limit in vain. -/
def Waited.gaveUp (timeout : Duration) (context : String) (limit : Nat) : Waited :=
  ⟨limit / 10 + 1, limit, some (context ++ ": condition not met within " ++ timeout.describe)⟩

private theorem eventually_of_first {holds : Nat → Bool} {k : Nat} {timeout : Duration}
    (first : FirstHolds holds k) (inTime : 10 * (k - 1) ≤ timeout.deadline) (context : String) :
    eventually timeout context holds = ⟨k, 10 * (k - 1), none⟩ := by
  have polled : poll holds timeout.deadline 0 0 = (k, 10 * (k - 1), true) :=
    poll_of_first first inTime rfl first.pos
  rw [eventually, polled]
  rfl

private theorem eventually_of_none {holds : Nat → Bool} {timeout : Duration}
    (never : ∀ j, 1 ≤ j → 10 * (j - 1) ≤ timeout.deadline → holds j = false) (context : String) :
    eventually timeout context holds = .gaveUp timeout context timeout.deadline := by
  have polled : poll holds timeout.deadline 0 0 = (timeout.deadline / 10 + 1, timeout.deadline,
      false) := poll_of_none never rfl (Nat.zero_le _)
  rw [eventually, polled]
  rfl

/-- With a limit on the clock, a condition that first holds at its `k`-th check is met if and only
if ten times `k - 1` milliseconds are within the limit, rounded up to whole milliseconds, and then
at that instant after `k` checks. Otherwise, and if it never holds, the wait fails at the limit
after as many checks as there are tenth milliseconds up to it. -/
theorem met_iff_in_time (timeout : Duration) (context : String) (holds : Nat → Bool)
    (onClock : timeout.seconds < 2 ^ 63) {limit : Nat}
    (rounded : limit = (timeout.seconds * 10 ^ 9 + timeout.nanos) ⌈/⌉ 10 ^ 6) :
    (∀ k, FirstHolds holds k →
      ((eventually timeout context holds).failure = none ↔ 10 * (k - 1) ≤ limit) ∧
      (10 * (k - 1) ≤ limit → eventually timeout context holds = ⟨k, 10 * (k - 1), none⟩) ∧
      (limit < 10 * (k - 1) →
        eventually timeout context holds = .gaveUp timeout context limit)) ∧
    ((∀ k, 1 ≤ k → holds k = false) →
      eventually timeout context holds = .gaveUp timeout context limit) := by
  obtain rfl : limit = timeout.deadline := rounded.trans (Duration.deadline_eq_ceilDiv onClock).symm
  refine ⟨fun k first => ?_, fun never => eventually_of_none (fun j pos _ => never j pos) context⟩
  have met (inTime : 10 * (k - 1) ≤ timeout.deadline) :=
    eventually_of_first first inTime context
  have late : timeout.deadline < 10 * (k - 1) →
      eventually timeout context holds = .gaveUp timeout context timeout.deadline := by
    intro late
    refine eventually_of_none (fun j pos inTime => first.before j pos ?_) context
    omega
  refine ⟨⟨fun none => ?_, fun inTime => by rw [met inTime]⟩, met, late⟩
  by_contra beyond
  rw [late (Nat.lt_of_not_le beyond)] at none
  cases none

/-- The condition that holds from the given check on. -/
def holdsFrom (k calls : Nat) : Bool := k ≤ calls

private theorem firstHolds_holdsFrom {k : Nat} (pos : 1 ≤ k) : FirstHolds (holdsFrom k) k where
  pos
  held := decide_eq_true (Nat.le_refl k)
  before _ _ less := decide_eq_false (Nat.not_le.mpr less)

/-- The fourth check is at the limit, which a nanosecond has put off to the thirtieth millisecond;
the fifth would be too late. -/
theorem met_iff_in_time_tie :
    (⟨0, 29000001⟩ : Duration).seconds < 2 ^ 63 ∧ 30 = (0 * 10 ^ 9 + 29000001) ⌈/⌉ 10 ^ 6 ∧
    FirstHolds (holdsFrom 4) 4 ∧ FirstHolds (holdsFrom 5) 5 ∧
    eventually ⟨0, 29000001⟩ "c" (holdsFrom 4) = ⟨4, 30, none⟩ ∧
    eventually ⟨0, 29000001⟩ "c" (holdsFrom 5) =
      ⟨4, 30, some "c: condition not met within 29.000001ms"⟩ ∧
    eventually ⟨0, 29000001⟩ "c" (fun _ => false) =
      ⟨4, 30, some "c: condition not met within 29.000001ms"⟩ := by
  have onClock : (⟨0, 29000001⟩ : Duration).seconds < 2 ^ 63 := by decide
  have rounded : 30 = (0 * 10 ^ 9 + 29000001) ⌈/⌉ 10 ^ 6 := by decide
  have fourth : FirstHolds (holdsFrom 4) 4 := firstHolds_holdsFrom (by decide)
  have fifth : FirstHolds (holdsFrom 5) 5 := firstHolds_holdsFrom (by decide)
  have failure : Waited.gaveUp ⟨0, 29000001⟩ "c" 30 =
      ⟨4, 30, some "c: condition not met within 29.000001ms"⟩ := by decide
  refine ⟨onClock, rounded, fourth, fifth, ?_, ?_, ?_⟩
  · exact ((met_iff_in_time _ _ _ onClock rounded).1 4 fourth).2.1 (by decide)
  · exact (((met_iff_in_time _ _ _ onClock rounded).1 5 fifth).2.2 (by decide)).trans failure
  · exact ((met_iff_in_time _ _ _ onClock rounded).2 fun _ _ => rfl).trans failure

end Intake
