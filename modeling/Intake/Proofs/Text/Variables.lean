import Mathlib.Tactic.SplitIfs
import Intake.Environment
import Intake.Json.Printer
import Intake.Proofs.Json.Numeral

/-!
# Variables, written and read

The bytes of a text spell that text. A truth value and a whole number have no white space at their
ends, and are read back from their plain notation; a whole number that is out of range is refused.
-/

namespace Intake

/-! ## Text -/

theorem Bytes.toList_loop (bytes : ByteArray) (i : Nat) (taken : List UInt8) :
    ByteArray.toList.loop bytes i taken = taken.reverse ++ bytes.data.toList.drop i := by
  induction i, taken using ByteArray.toList.loop.induct bytes with
  | case1 i taken inside ih =>
    have here : bytes.get! i = bytes.data.toList[i] := by
      rw [Array.getElem_toList]
      exact getElem!_pos bytes.data i inside
    rw [ByteArray.toList.loop, if_pos inside, ih, List.drop_eq_getElem_cons inside, here]
    simp
  | case2 i taken outside =>
    rw [ByteArray.toList.loop, if_neg outside, List.drop_eq_nil_of_le (Nat.not_lt.mp outside),
      List.append_nil]

/-- The bytes of a text spell it. -/
theorem Bytes.text?_ofText (text : String) : (Bytes.ofText text).text? = some text := by
  have whole : text.toByteArray.toList.toArray = text.toByteArray.data := by
    rw [ByteArray.toList, toList_loop]
    rfl
  rw [Bytes.text?, Bytes.ofText]
  change String.fromUTF8? ⟨text.toByteArray.toList.toArray⟩ = _
  rw [whole]
  exact dif_pos text.isValidUTF8

namespace Text

/-! ## White space -/

/-- A text without white space is its own trimmed form. -/
theorem trim_of_solid {s : List Char} (solid : ∀ c ∈ s, isBlank c = false) : trim s = s := by
  have keeps : ∀ s : List Char, (∀ c ∈ s, isBlank c = false) → s.dropWhile isBlank = s := by
    intro s solid
    cases s with
    | nil => rfl
    | cons c s => rw [List.dropWhile_cons_of_neg (by simp [solid c List.mem_cons_self])]
  rw [trim, keeps s solid, keeps s.reverse fun c mem => solid c (List.mem_reverse.mp mem),
    List.reverse_reverse]

theorem isBlank_of_isDigit {c : Char} (digit : c.isDigit = true) : isBlank c = false := by
  have low : 48 ≤ c.toNat := by simp_all [Char.isDigit, UInt32.le_iff_toNat_le]
  have high : c.toNat ≤ 57 := by simp_all [Char.isDigit, UInt32.le_iff_toNat_le]
  simp only [isBlank, Bool.or_eq_false_iff, Bool.and_eq_false_iff, decide_eq_false_iff_not,
    beq_eq_false_iff_ne]
  omega

private theorem trim_decimal (n : Nat) : trim (decimal n) = decimal n :=
  trim_of_solid fun _ mem => isBlank_of_isDigit (Json.isDigit_of_mem_decimal mem)

/-! ## Numbers -/

/-- Digits are taken up to the last one if the number they write is not too large, else only up to
the first one that makes it so. -/
theorem digits_of_isDigit {most : Nat} {beyond : NumberProblem} {s : List Char} {n : Nat}
    (inside : n ≤ most) (all : ∀ c ∈ s, c.isDigit = true) :
    digits most beyond n s =
      if (s.map Json.digit).foldl (fun n d => n * 10 + d) n ≤ most then
        .ok ((s.map Json.digit).foldl (fun n d => n * 10 + d) n)
      else .error beyond := by
  induction s generalizing n with
  | nil => exact (if_pos inside).symm
  | cons c s ih =>
    have more := Json.le_foldl_digits (s.map Json.digit) (n * 10 + Json.digit c)
    rw [digits, if_pos (all c List.mem_cons_self), List.map_cons, List.foldl_cons]
    change (if n * 10 + Json.digit c ≤ most then digits most beyond _ s else .error beyond) = _
    by_cases fits : n * 10 + Json.digit c ≤ most
    · rw [if_pos fits]
      exact ih fits fun c mem => all c (List.mem_cons_of_mem _ mem)
    · rw [if_neg fits, if_neg (by omega)]

/-- A written number is read back if it is below the bound, and is too large otherwise. -/
theorem natural_decimal {bound : Nat} (pos : 0 < bound) (n : Nat) :
    natural bound (decimal n) = if n < bound then .ok n else .error .tooLarge := by
  have value : ((decimal n).map Json.digit).foldl (fun n d => n * 10 + d) 0 = n :=
    Json.ofDigits_decimal n
  have all : ∀ c ∈ decimal n, c.isDigit = true := fun _ => Json.isDigit_of_mem_decimal
  have taken : natural bound (decimal n) = digits (bound - 1) .tooLarge 0 (decimal n) := by
    obtain ⟨c, tail, written, first⟩ := Json.decimal_eq_digit_cons n
    rw [written, natural]
    · exact fun unsigned => nomatch unsigned
    · exact fun sign => by simp [(List.cons.inj sign).1] at first
    · exact fun _ sign => by simp [(List.cons.inj sign).1] at first
  rw [taken, digits_of_isDigit (Nat.zero_le _) all, value]
  exact if_congr (by omega) rfl rfl

end Text

namespace Environment

variable {env : Environment} {key : String}

theorem flagOr_of_written {given : Option Bool}
    (holds : env.text? key = given.map fun b => String.ofList (Json.printBoolean b))
    (default : Bool) : env.flagOr key default = .ok (given.getD default) := by
  rw [flagOr, readOr, holds]
  cases given with
  | none => rfl
  | some b => cases b <;> rfl

theorem readOr_natural_of_written {given : Option Nat}
    (holds : env.text? key = given.map fun n => String.ofList (decimal n)) {bound : Nat}
    (pos : 0 < bound) (default : Nat) :
    env.readOr key default (readNatural bound) =
      if ∀ n ∈ given, n < bound then .ok (given.getD default)
      else .error (.unreadable key Text.NumberProblem.tooLarge.message) := by
  rw [readOr, holds]
  cases given with
  | none => simp
  | some n =>
    simp only [Option.map_some, String.toList_ofList, Text.trim_decimal, readNatural,
      Text.natural_decimal pos]
    split_ifs <;> simp_all [Except.mapError]

end Environment

end Intake
