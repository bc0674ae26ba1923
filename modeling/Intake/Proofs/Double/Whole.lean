import Intake.Metrics
import Mathlib.Data.List.Range
import Mathlib.Tactic.Ring

/-! # Whole numbers as doubles

Every whole number below `2 ^ 53` is a double, and its shortest decimal has no fractional digit. So
a gauge that shows such a number shows exactly this number.
-/

namespace Intake

namespace Magnitude

/-! ## The nearest double -/

private theorem roundHalfEven_one (n : Nat) : roundHalfEven n 1 = n := by
  simp [roundHalfEven, Nat.mod_one]

/-- A number whose binary exponent is not positive is shifted up by as much. -/
private theorem scaled_one {n : Nat} {shift : Int} (nonpositive : shift ≤ 0) :
    scaled n 1 shift = (n * 2 ^ (-shift).toNat, 1) := by
  obtain negative | rfl := Int.lt_or_eq_of_le nonpositive
  · simp only [scaled, if_neg (Int.not_le.mpr negative), Nat.pow_eq]
  · simp [scaled]

private theorem log2_lt_of_lt {n : Nat} (pos : 0 < n) (small : n < 2 ^ 53) : n.log2 < 53 :=
  (Nat.log2_lt pos.ne').mpr small

/-- The whole number with a full mantissa. -/
def whole (n : Nat) : Magnitude := ⟨n * 2 ^ (52 - n.log2), (n.log2 : Int) - 52⟩

private theorem le_mantissa_whole {n : Nat} (pos : 0 < n) (small : n < 2 ^ 53) :
    2 ^ 52 ≤ (whole n).mantissa := by
  have log := log2_lt_of_lt pos small
  calc 2 ^ 52 = 2 ^ n.log2 * 2 ^ (52 - n.log2) := by
        rw [← Nat.pow_add, Nat.add_sub_cancel' (Nat.le_of_lt_succ log)]
    _ ≤ n * 2 ^ (52 - n.log2) := Nat.mul_le_mul_right _ (Nat.log2_self_le pos.ne')

private theorem mantissa_whole_lt {n : Nat} (pos : 0 < n) (small : n < 2 ^ 53) :
    (whole n).mantissa < 2 ^ 53 := by
  have log := log2_lt_of_lt pos small
  calc n * 2 ^ (52 - n.log2) < 2 ^ (n.log2 + 1) * 2 ^ (52 - n.log2) :=
        Nat.mul_lt_mul_of_pos_right Nat.lt_log2_self (Nat.two_pow_pos _)
    _ = 2 ^ 53 := by
        rw [← Nat.pow_add]
        congr 1
        omega

private theorem ofNat?_eq_whole {n : Nat} (pos : 0 < n) (small : n < 2 ^ 53) :
    ofNat? n = some (whole n) := by
  have log := log2_lt_of_lt pos small
  have guess :
      max ((n.log2 : Int) - (Nat.log2 1 : Int) - 53) minExponent = (n.log2 : Int) - 53 := by
    rw [show Nat.log2 1 = 0 from rfl]
    simp only [minExponent]
    omega
  have coarse : scaled n 1 ((n.log2 : Int) - 53) = (n * 2 ^ (53 - n.log2), 1) := by
    rw [scaled_one (by omega)]
    congr 3
    omega
  have fine : scaled n 1 (whole n).exponent = ((whole n).mantissa, 1) := by
    have nonpositive : (whole n).exponent ≤ 0 := by
      simp only [whole]
      omega
    have distance : (-(whole n).exponent).toNat = 52 - n.log2 := by
      simp only [whole]
      omega
    rw [scaled_one nonpositive, distance, whole]
  have tooFine : ¬n * 2 ^ (53 - n.log2) < 2 ^ 53 := by
    have full := le_mantissa_whole pos small
    have twice : n * 2 ^ (53 - n.log2) = 2 * (whole n).mantissa := by
      rw [show 53 - n.log2 = (52 - n.log2) + 1 by omega, Nat.pow_succ, whole]
      ring
    omega
  have exponent : (n.log2 : Int) - 53 + 1 = (whole n).exponent := by
    simp only [whole]
    omega
  have small' : (whole n).exponent ≤ maxExponent := by
    simp only [whole, maxExponent]
    omega
  simp only [ofNat?, ofRatio?, if_neg pos.ne', guess, coarse, Nat.div_one, Nat.pow_eq,
    if_neg tooFine, fine, roundHalfEven_one, if_pos (mantissa_whole_lt pos small), exponent,
    if_pos small']

/-! ## The shortest decimal -/

/-- On a grid of whole numbers no neighbour is near enough but the number itself. -/
private theorem onGrid?_whole {n den low high : Nat} (closed : Bool) (place : Nat) (fine : 4 ≤ den)
    (below : low < n * den ∧ n * den < low + 4) (above : n * den < high ∧ high < n * den + 4) :
    onGrid? low (n * den) high den closed place =
      if 10 ^ place ∣ n then some (n / 10 ^ place) else none := by
  have step : 0 < 10 ^ place := Nat.pow_pos (by decide)
  have down : n * den / (den * 10 ^ place) = n / 10 ^ place := by
    rw [Nat.mul_comm n, Nat.mul_div_mul_left _ _ (by omega)]
  have parts : n * den = n / 10 ^ place * (den * 10 ^ place) + n % 10 ^ place * den := by
    conv_lhs => rw [← Nat.div_add_mod n (10 ^ place)]
    ring
  have next : (n / 10 ^ place + 1) * (den * 10 ^ place) =
      n / 10 ^ place * (den * 10 ^ place) + den * 10 ^ place := Nat.succ_mul _ _
  have rest : n % 10 ^ place * den + den ≤ den * 10 ^ place := by
    rw [← Nat.succ_mul, Nat.mul_comm den]
    exact Nat.mul_le_mul_right den (Nat.mod_lt n step)
  simp only [onGrid?, Int.natCast_nonneg, if_true, Int.toNat_natCast, Nat.mul_one, Nat.pow_eq, down,
    next]
  generalize n / 10 ^ place * (den * 10 ^ place) = left at parts ⊢
  generalize den * 10 ^ place = unit at rest ⊢
  by_cases divides : 10 ^ place ∣ n
  · rw [Nat.mod_eq_zero_of_dvd divides, Nat.zero_mul] at parts rest
    have inLow : if closed = true then low ≤ left else low < left := by split <;> omega
    have notInHigh : ¬if closed = true then left + unit ≤ high else left + unit < high := by
      split <;> omega
    rw [if_pos inLow, if_neg notInHigh, if_pos divides]
  · have pos : 0 < n % 10 ^ place :=
      Nat.pos_iff_ne_zero.mpr fun zero => divides (Nat.dvd_of_mod_eq_zero zero)
    have apart : den ≤ n % 10 ^ place * den := Nat.le_mul_of_pos_left den pos
    have notInLow : ¬if closed = true then low ≤ left else low < left := by split <;> omega
    have notInHigh : ¬if closed = true then left + unit ≤ high else left + unit < high := by
      split <;> omega
    rw [if_neg notInLow, if_neg notInHigh, if_neg divides]

/-- A number of at least one and of at most 53 bits has its leading digit among the first 17 before
the point. -/
private theorem leadingPlace_whole {num den log : Nat} (least : den ≤ num) (few : log < 53) :
    ∃ place ≤ 16, leadingPlace num den log = (place : Nat) := by
  obtain ⟨guess, same⟩ : ∃ guess : Nat, Int.fdiv (log * 30103) 100000 = guess :=
    ⟨log * 30103 / 100000, by rw [Int.fdiv_eq_ediv_of_nonneg _ (by decide)]; norm_cast⟩
  have bound : guess ≤ 15 := by
    rw [Int.fdiv_eq_ediv_of_nonneg _ (by decide)] at same
    omega
  simp only [leadingPlace, same]
  split
  · exact ⟨guess + 1, by omega, rfl⟩
  · split
    · exact ⟨guess, by omega, rfl⟩
    · next far =>
      cases guess with
      | zero => exact absurd (by simpa [atLeastTenTo] using least) far
      | succ guess => exact ⟨guess, by omega, by omega⟩

/-- Dropping zeros leaves the number as it is. -/
private theorem trim_whole {digits' : Nat} {place' : Int} {fuel digits place : Nat}
    (trimmed : trim fuel digits place = (digits', place')) :
    ∃ place'' : Nat, place' = place'' ∧ digits' * 10 ^ place'' = digits * 10 ^ place := by
  induction fuel generalizing digits place with
  | zero =>
    cases trimmed
    exact ⟨place, rfl, rfl⟩
  | succ fuel ih =>
    simp only [trim] at trimmed
    split at trimmed
    · next zero =>
      have trimmed' : trim fuel (digits / 10) ((place + 1 : Nat) : Int) = (digits', place') :=
        trimmed
      obtain ⟨place'', same, kept⟩ := ih trimmed'
      refine ⟨place'', same, kept.trans ?_⟩
      calc digits / 10 * 10 ^ (place + 1) = digits / 10 * 10 * 10 ^ place := by ring
        _ = digits * 10 ^ place := by rw [Nat.div_mul_cancel (Nat.dvd_of_mod_eq_zero zero)]
    · cases trimmed
      exact ⟨place, rfl, rfl⟩

/-- Of the grids from the leading digit on, the first that has a number near enough is one of whole
numbers: the number itself is on the last of them. -/
private theorem findSome?_whole {n den low high leading : Nat} (closed : Bool) (fine : 4 ≤ den)
    (below : low < n * den ∧ n * den < low + 4) (above : n * den < high ∧ high < n * den + 4)
    (few : leading ≤ 16) :
    ∃ digits place : Nat, ((List.range 17).findSome? fun (k : Nat) =>
        (onGrid? low (n * den) high den closed (leading - (k : Int))).map fun digits =>
          (digits, leading - (k : Int))) = some (digits, (place : Int)) ∧
      digits * 10 ^ place = n := by
  generalize rule : (fun (k : Nat) =>
    (onGrid? low (n * den) high den closed (leading - (k : Int))).map fun digits =>
      (digits, leading - (k : Int))) = f
  have onWhole {k : Nat} (before : k ≤ leading) :
      f k = if 10 ^ (leading - k) ∣ n then
        some (n / 10 ^ (leading - k), ((leading - k : Nat) : Int)) else none := by
    rw [← rule]
    simp only [← Int.ofNat_sub before, onGrid?_whole closed _ fine below above]
    split <;> rfl
  have last : f leading = some (n, 0) := by
    simp [onWhole (Nat.le_refl leading)]
  have member : leading ∈ List.range 17 := List.mem_range.mpr (Nat.lt_succ_of_le few)
  obtain ⟨hit, found⟩ : ∃ hit, (List.range 17).findSome? f = some hit := by
    refine Option.isSome_iff_exists.mp (List.findSome?_isSome_iff.mpr ⟨leading, member, ?_⟩)
    rw [last]
    rfl
  obtain ⟨earlier, k, later, split, here, none⟩ := List.findSome?_eq_some_iff.mp found
  have before : k ≤ leading := by
    rw [split] at member
    obtain first | rfl | rest := by simpa using member
    · exact absurd (last.symm.trans (none leading first)) (by simp)
    · exact Nat.le_refl _
    · have rising : (List.range 17).Pairwise (· < ·) := List.pairwise_lt_range
      rw [split] at rising
      have tail := (List.pairwise_append.mp rising).2.1
      exact Nat.le_of_lt (List.rel_of_pairwise_cons tail rest)
  rw [onWhole before] at here
  split at here
  · next divides =>
    cases here
    exact ⟨_, _, found, Nat.div_mul_cancel divides⟩
  · cases here

/-- The shortest decimal of a whole number is this number. -/
private theorem shortest_whole {n : Nat} (pos : 0 < n) (small : n < 2 ^ 53) :
    ∃ digits place : Nat, (whole n).shortest = (digits, (place : Int)) ∧
      digits * 10 ^ place = n := by
  have log := log2_lt_of_lt pos small
  have full := le_mantissa_whole pos small
  generalize powered : 2 ^ (54 - n.log2) = den
  have fine : 4 ≤ den := by
    calc 4 = 2 ^ 2 := rfl
      _ ≤ 2 ^ (54 - n.log2) := Nat.pow_le_pow_right (by decide) (by omega)
      _ = den := powered
  have value : 4 * (whole n).mantissa = n * den := by
    rw [← powered, show 54 - n.log2 = (52 - n.log2) + 2 by omega, Nat.pow_add, whole]
    ring
  have log' : ((whole n).mantissa.log2 : Int) + (whole n).exponent = n.log2 := by
    have mantissa : (whole n).mantissa.log2 = 52 :=
      (Nat.log2_eq_iff (by omega)).mpr ⟨full, mantissa_whole_lt pos small⟩
    rw [mantissa]
    simp only [whole]
    omega
  have negative : ¬0 ≤ (whole n).exponent - 2 := by
    simp only [whole]
    omega
  have distance : (-((whole n).exponent - 2)).toNat = 54 - n.log2 := by
    simp only [whole]
    omega
  obtain ⟨leading, few, leads⟩ := leadingPlace_whole (Nat.le_mul_of_pos_left den pos) log
  simp only [shortest, quarters, if_neg negative, distance, Nat.pow_eq, powered, value, log',
    Nat.mul_one, leads]
  rw [if_neg (by omega)]
  generalize lowest : n * den - (if (whole n).mantissa = 2 ^ 52 ∧ minExponent < (whole n).exponent
    then 1 else 2) = low
  have below : low < n * den ∧ n * den < low + 4 := by split at lowest <;> omega
  have above : n * den < n * den + 2 ∧ n * den + 2 < n * den + 4 := ⟨by omega, by omega⟩
  obtain ⟨digits, place, found, same⟩ :=
    findSome?_whole ((whole n).mantissa % 2 == 0) fine below above few
  simp only [found, Option.getD_some]
  generalize trimmed : trim 18 digits place = result
  obtain ⟨place', kept, whole⟩ := trim_whole trimmed
  exact ⟨result.1, place', by rw [← kept], whole.trans same⟩

end Magnitude

/-- A power of ten appends zeros. -/
private theorem decimal_mul_ten_pow {digits : Nat} (pos : 0 < digits) (place : Nat) :
    decimal (digits * 10 ^ place) = decimal digits ++ List.replicate place '0' := by
  induction place with
  | zero => simp
  | succ place ih =>
    have more : 0 < digits * 10 ^ place := Nat.mul_pos pos (Nat.pow_pos (by decide))
    calc decimal (digits * 10 ^ (place + 1)) = decimal (10 * (digits * 10 ^ place) + 0) := by
          congr 1
          ring
      _ = decimal (digits * 10 ^ place) ++ ['0'] :=
          (Nat.toDigits_append_toDigits (by decide) more (by decide)).symm
      _ = _ := by rw [ih, List.append_assoc, ← List.replicate_succ']

/-- A gauge shows each whole number below `2 ^ 53` as it is. -/
theorem Readings.printGauge_eq {n : Nat} (small : n < 2 ^ 53) : printGauge n = toString n := by
  obtain rfl | pos := Nat.eq_zero_or_pos n
  · rfl
  · obtain ⟨digits, place, short, same⟩ := Magnitude.shortest_whole pos small
    have pos' : 0 < digits := Nat.pos_of_mul_pos_right (same ▸ pos)
    rw [printGauge, Magnitude.ofNat?_eq_whole pos small, Option.getD_some, Magnitude.printWhole,
      short]
    change String.ofList (decimal digits ++ List.replicate place '0') = String.ofList (decimal n)
    rw [← decimal_mul_ten_pow pos', same]

end Intake
