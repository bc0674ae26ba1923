import Mathlib.Tactic.IntervalCases
import Intake.Json.Numeral

/-!
# Whole numbers, written and read

A whole number of at most 64 bits is read back exactly, provided that what follows does not go on
with the numeral: the digits are all scanned and all fit in the significand.
-/

namespace Intake

namespace Json

/-- What follows does not go on with a numeral. -/
def Ends : List Char → Prop
  | [] => True
  | c :: _ => c.isDigit = false ∧ c ≠ '.' ∧ c ≠ 'e' ∧ c ≠ 'E'

/-! ## The digits that are written -/

theorem isDigit_of_mem_decimal {n : Nat} {c : Char} (mem : c ∈ decimal n) : c.isDigit = true :=
  Nat.isDigit_of_mem_toDigits (by decide) (by decide) mem

/-- A number is written with a digit in front. -/
theorem decimal_eq_digit_cons (n : Nat) : ∃ c tail, decimal n = c :: tail ∧ c.isDigit = true := by
  obtain ⟨c, tail, written⟩ := List.exists_cons_of_ne_nil (Nat.toDigits_ne_nil (n := n) (b := 10))
  change decimal n = c :: tail at written
  exact ⟨c, tail, written, isDigit_of_mem_decimal (by rw [written]; exact List.mem_cons_self)⟩

/-- Only zero is written with a leading zero. -/
private theorem decimal_eq_cons {n : Nat} (pos : 0 < n) :
    ∃ c tail, decimal n = c :: tail ∧ c ≠ '0' := by
  induction n using Nat.strong_induction_on with
  | _ n ih =>
    unfold decimal
    rw [Nat.toDigits_eq_if (by decide)]
    split_ifs with small
    · refine ⟨_, _, rfl, ?_⟩
      interval_cases n <;> decide
    · obtain ⟨c, tail, written, nonzero⟩ := ih (n / 10) (by omega) (by omega)
      refine ⟨c, tail ++ [Nat.digitChar (n % 10)], ?_, nonzero⟩
      rw [← List.cons_append, ← written]
      rfl

theorem ofDigits_decimal (n : Nat) : ofDigits ((decimal n).map digit) = n := by
  have value : Nat.ofDigitChars 10 (decimal n) 0 = n :=
    Nat.ofDigitChars_toDigits (by decide) (by decide)
  simpa [ofDigits, Nat.ofDigitChars, List.foldl_map, digit, Nat.mul_comm] using value

/-! ## The digits that are read -/

private theorem afterDigits_of_ends {rest : List Char} (ends : Ends rest) :
    rest.takeWhile Char.isDigit = [] ∧ rest.dropWhile Char.isDigit = rest := by
  cases rest with
  | nil => exact ⟨rfl, rfl⟩
  | cons c rest => simp [ends.1]

private theorem scanDigits_decimal (cut : Problem) (n : Nat) {rest : List Char} (ends : Ends rest) :
    scanDigits cut (decimal n ++ rest) = .ok ((decimal n).map digit, rest) := by
  have all : ∀ c ∈ decimal n, c.isDigit = true := fun _ => isDigit_of_mem_decimal
  have leading : leadingDigits (decimal n ++ rest) = (decimal n).map digit := by
    rw [leadingDigits, List.takeWhile_append_of_pos all, (afterDigits_of_ends ends).1,
      List.append_nil]
  have after : afterDigits (decimal n ++ rest) = rest := by
    rw [afterDigits, List.dropWhile_append_of_pos all, (afterDigits_of_ends ends).2]
  obtain ⟨c, tail, written, first⟩ := decimal_eq_digit_cons n
  calc scanDigits cut (decimal n ++ rest)
      = .ok (leadingDigits (decimal n ++ rest), afterDigits (decimal n ++ rest)) := by
        rw [written, List.cons_append, scanDigits, if_pos first]
    _ = .ok ((decimal n).map digit, rest) := by rw [leading, after]

private theorem scanWhole_decimal (cut : Problem) (n : Nat) {rest : List Char} (ends : Ends rest) :
    scanWhole cut (decimal n ++ rest) = .ok ((decimal n).map digit, rest) := by
  obtain rfl | pos := Nat.eq_zero_or_pos n
  · cases rest with
    | nil => rfl
    | cons c rest =>
      change (if c.isDigit = true then _ else _) = _
      rw [if_neg (by simp [ends.1])]
      rfl
  · rw [← scanDigits_decimal cut n ends]
    obtain ⟨c, tail, written, nonzero⟩ := decimal_eq_cons pos
    rw [written, List.cons_append, scanWhole]
    exact fun _ _ zero => nonzero (List.cons.inj zero).1

private theorem scanFraction_of_ends (cut : Problem) {rest : List Char} (ends : Ends rest) :
    scanFraction cut rest = .ok (none, rest) := by
  cases rest with
  | nil => rfl
  | cons c rest =>
    rw [scanFraction]
    exact fun _ point => ends.2.1 (List.cons.inj point).1

theorem scanExponent_of_ends (cut : Problem) {rest : List Char} (ends : Ends rest) :
    scanExponent cut rest = .ok (none, rest) := by
  cases rest with
  | nil => rfl
  | cons c rest =>
    rw [scanExponent]
    · exact fun _ letter => ends.2.2.1 (List.cons.inj letter).1
    · exact fun _ letter => ends.2.2.2 (List.cons.inj letter).1

private theorem scanUnsigned_decimal (cut : Problem) (negative : Bool) (n : Nat) {rest : List Char}
    (ends : Ends rest) :
    scanUnsigned cut negative (decimal n ++ rest) =
      .ok (⟨negative, (decimal n).map digit, none, none⟩, rest) := by
  simp only [scanUnsigned, bind, Except.bind, scanWhole_decimal cut n ends,
    scanFraction_of_ends cut ends, scanExponent_of_ends cut ends]
  rfl

theorem scanNumeral_printInteger (cut : Problem) (n : Int) {rest : List Char} (ends : Ends rest) :
    scanNumeral cut (printInteger n ++ rest) =
      .ok (⟨n < 0, (decimal n.natAbs).map digit, none, none⟩, rest) := by
  rw [printInteger]
  split_ifs with negative
  · rw [decide_eq_true negative]
    exact scanUnsigned_decimal cut true n.natAbs ends
  · rw [decide_eq_false negative, ← scanUnsigned_decimal cut false n.natAbs ends]
    obtain ⟨c, tail, written, first⟩ := decimal_eq_digit_cons n.natAbs
    rw [written, List.cons_append, scanNumeral]
    exact fun _ sign => by simp [(List.cons.inj sign).1] at first

/-! ## The value of the digits -/

theorem le_foldl_digits (digits : List Nat) (significand : Nat) :
    significand ≤ digits.foldl (fun n d => n * 10 + d) significand := by
  induction digits generalizing significand with
  | nil => exact Nat.le_refl significand
  | cons d digits ih => exact Nat.le_trans (by omega) (ih (significand * 10 + d))

/-- Digits are taken in up to the last one as long as the number they write fits. -/
private theorem absorb_of_lt {digits : List Nat} {significand : Nat}
    (fits : digits.foldl (fun n d => n * 10 + d) significand < Nat.pow 2 64) :
    absorb significand digits = (digits.foldl (fun n d => n * 10 + d) significand, []) := by
  induction digits generalizing significand with
  | nil => rfl
  | cons d digits ih =>
    rw [absorb, if_pos (Nat.lt_of_le_of_lt (le_foldl_digits digits _) fits)]
    exact ih fits

private theorem number?_decimal (negative : Bool) {n : Nat} (fits : n < Nat.pow 2 64) :
    Numeral.number? ⟨negative, (decimal n).map digit, none, none⟩ =
      some (Numeral.ofWhole negative n) := by
  have value : ((decimal n).map digit).foldl (fun n d => n * 10 + d) 0 = n := ofDigits_decimal n
  have taken : absorb 0 ((decimal n).map digit) = (n, []) := by
    rw [absorb_of_lt (value.symm ▸ fits), value]
  simp only [Numeral.number?, taken]

private theorem ofWhole_natAbs {n : Int} (low : -(2 ^ 63) ≤ n) :
    Numeral.ofWhole (n < 0) n.natAbs = .integer n := by
  by_cases negative : n < 0
  · have inRange : ¬ (n.natAbs = 0 ∨ Nat.pow 2 63 < n.natAbs) := by
      change ¬ (n.natAbs = 0 ∨ 2 ^ 63 < n.natAbs)
      omega
    rw [decide_eq_true negative, Numeral.ofWhole, if_pos rfl, if_neg inRange,
      show -(n.natAbs : Int) = n by omega]
  · rw [decide_eq_false negative, Numeral.ofWhole, if_neg (by decide),
      show (n.natAbs : Int) = n by omega]

/-- A whole number within the range of 64 bits is read back. -/
theorem readNumber_printInteger {n : Int} (low : -(2 ^ 63) ≤ n) (high : n < 2 ^ 64)
    {rest : List Char} (ends : Ends rest) :
    readNumber (printInteger n ++ rest) = .ok (.integer n, rest) := by
  have fits : n.natAbs < Nat.pow 2 64 := by
    change n.natAbs < 2 ^ 64
    omega
  simp only [readNumber, bind, Except.bind, scanNumeral_printInteger .endInValue n ends,
    number?_decimal _ fits, ofWhole_natAbs low]
  rfl

end Json

end Intake
