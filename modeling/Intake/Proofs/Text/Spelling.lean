import Mathlib.Data.List.TakeWhile
import Intake.Proofs.Text.Variables

/-!
# Spellings

How a truth value and a whole number may be spelled in a variable: white space around them does not
count, a truth value may be in any letter case, and a number may have a plus sign and zeros in
front. What is read from a variable is what it spells; nothing else is accepted.
-/

namespace Intake

namespace Text

/-! ## White space around a text -/

/-- The text is its core with white space before and behind it. -/
def Padded (s core : List Char) : Prop :=
  ∃ before after, s = before ++ core ++ after ∧
    (∀ c ∈ before, isBlank c = true) ∧ ∀ c ∈ after, isBlank c = true

private theorem padded_trim (s : List Char) : Padded s (trim s) := by
  have front := List.takeWhile_append_dropWhile (p := isBlank) (l := s)
  have back := List.takeWhile_append_dropWhile (p := isBlank) (l := (s.dropWhile isBlank).reverse)
  refine ⟨s.takeWhile isBlank, ((s.dropWhile isBlank).reverse.takeWhile isBlank).reverse,
    ?_, ?_, ?_⟩
  · rw [List.append_assoc, trim, ← List.reverse_append, back, List.reverse_reverse, front]
  · exact fun c mem => List.mem_takeWhile_imp mem
  · exact fun c mem => List.mem_takeWhile_imp (List.mem_reverse.mp mem)

/-- The white space around a text without any is all that is taken away. -/
private theorem trim_of_padded {s core : List Char} (padded : Padded s core)
    (solid : ∀ c ∈ core, isBlank c = false) : trim s = core := by
  obtain ⟨before, after, rfl, leading, trailing⟩ := padded
  have behind : (after.reverse ++ core.reverse).dropWhile isBlank =
      core.reverse.dropWhile isBlank :=
    List.dropWhile_append_of_pos fun c mem => trailing c (List.mem_reverse.mp mem)
  rw [trim, List.append_assoc, List.dropWhile_append_of_pos leading]
  cases core with
  | nil =>
    have none : after.dropWhile isBlank = [] := List.dropWhile_eq_nil_iff.mpr trailing
    rw [List.nil_append, none]
    rfl
  | cons c core =>
    have first : ((c :: core) ++ after).dropWhile isBlank = (c :: core) ++ after :=
      List.dropWhile_cons_of_neg (by simp [solid c List.mem_cons_self])
    have itself : trim (c :: core) = c :: core := trim_of_solid solid
    rw [trim, List.dropWhile_cons_of_neg (by simp [solid c List.mem_cons_self])] at itself
    rw [first, List.reverse_append, behind, itself]

/-! ## Truth values -/

/-- The words for a truth value. -/
def truthWords : Bool → List String
  | true => ["true", "1", "yes", "on"]
  | false => ["false", "0", "no", "off"]

/-- The text is a word for the truth value, in any letter case and with white space around it. -/
def SpellsTruth (text : String) (b : Bool) : Prop :=
  ∃ word, Padded text.toList word ∧ String.ofList (lower word) ∈ truthWords b

private theorem flag?_eq_some_iff {s : List Char} {b : Bool} :
    flag? s = some b ↔ String.ofList s ∈ truthWords b := by
  have apart : ∀ word ∈ truthWords false, word ∉ truthWords true := by decide
  change (if String.ofList s ∈ truthWords true then some true
    else if String.ofList s ∈ truthWords false then some false else none) = some b ↔ _
  cases b with
  | true => split_ifs <;> simp_all
  | false =>
    split_ifs with yes no
    · exact iff_of_false nofun fun no => apart _ no yes
    · exact iff_of_true rfl no
    · exact iff_of_false nofun no

private theorem toLower_of_isBlank {c : Char} (blank : isBlank c = true) : c.toLower = c := by
  have noCapital : ¬ (65 ≤ c.toNat ∧ c.toNat ≤ 90) := by
    simp only [isBlank, Bool.or_eq_true, Bool.and_eq_true, decide_eq_true_eq, beq_iff_eq] at blank
    omega
  exact dif_neg fun capital => noCapital (by simpa [UInt32.le_iff_toNat_le] using capital)

/-- There is no white space in a word for a truth value. -/
private theorem solid_of_mem_truthWords {word : List Char} {b : Bool}
    (listed : String.ofList (lower word) ∈ truthWords b) : ∀ c ∈ word, isBlank c = false := by
  have solid : ∀ listed ∈ truthWords b, ∀ c ∈ listed.toList, isBlank c = false := by
    cases b <;> simp [truthWords, isBlank]
  intro c mem
  rw [Bool.eq_false_iff]
  intro blank
  have lowered : c ∈ (String.ofList (lower word)).toList := by
    rw [String.toList_ofList, ← toLower_of_isBlank blank]
    exact List.mem_map_of_mem mem
  exact absurd blank (Bool.eq_false_iff.mp (solid _ listed c lowered))

/-! ## Whole numbers -/

/-- The text is the number in decimal digits, perhaps with zeros or a plus sign in front and with
white space around it. -/
def SpellsNumber (text : String) (n : Nat) : Prop :=
  ∃ sign digits, Padded text.toList (sign ++ digits) ∧ (sign = [] ∨ sign = ['+']) ∧
    digits ≠ [] ∧ (∀ c ∈ digits, c.isDigit = true) ∧ Json.ofDigits (digits.map Json.digit) = n

private theorem isDigit_of_digits {most : Nat} {beyond : NumberProblem} {s : List Char} {n m : Nat}
    (taken : digits most beyond n s = .ok m) : ∀ c ∈ s, c.isDigit = true := by
  induction s generalizing n with
  | nil => exact nofun
  | cons c s ih =>
    rw [digits] at taken
    split at taken
    · next digit =>
      dsimp only at taken
      split at taken
      · exact List.forall_mem_cons.mpr ⟨digit, ih taken⟩
      · cases taken
    · cases taken

/-- Digits are taken exactly if there is nothing else and the number is not too large. -/
private theorem digits_eq_ok_iff {most : Nat} {beyond : NumberProblem} {s : List Char} {n : Nat} :
    digits most beyond 0 s = .ok n ↔
      (∀ c ∈ s, c.isDigit = true) ∧ Json.ofDigits (s.map Json.digit) = n ∧ n ≤ most := by
  constructor
  · intro taken
    have all := isDigit_of_digits taken
    rw [digits_of_isDigit (Nat.zero_le _) all] at taken
    split at taken
    · next within =>
      cases taken
      exact ⟨all, rfl, within⟩
    · cases taken
  · rintro ⟨all, rfl, within⟩
    rw [digits_of_isDigit (Nat.zero_le _) all]
    exact if_pos within

private theorem natural_eq_ok_iff {bound : Nat} (pos : 0 < bound) {s : List Char} {n : Nat} :
    natural bound s = .ok n ↔ ∃ sign digits, s = sign ++ digits ∧ (sign = [] ∨ sign = ['+']) ∧
      digits ≠ [] ∧ (∀ c ∈ digits, c.isDigit = true) ∧
      Json.ofDigits (digits.map Json.digit) = n ∧ n < bound := by
  have below (n : Nat) : n ≤ bound - 1 ↔ n < bound := by omega
  constructor
  · intro taken
    unfold natural at taken
    split at taken
    · cases taken
    · cases taken
    · next rest more =>
      obtain ⟨all, value, within⟩ := digits_eq_ok_iff.mp taken
      refine ⟨['+'], rest, rfl, .inr rfl, ?_, all, value, (below n).mp within⟩
      rintro rfl
      exact more rfl
    · next some _ _ =>
      obtain ⟨all, value, within⟩ := digits_eq_ok_iff.mp taken
      exact ⟨[], _, rfl, .inl rfl, some, all, value, (below n).mp within⟩
  · rintro ⟨sign, digits, rfl, rfl | rfl, some, all, value, within⟩
    · have first : ∀ rest, digits ≠ '+' :: rest := by
        rintro rest rfl
        exact absurd (all '+' List.mem_cons_self) (by decide)
      rw [List.nil_append, natural]
      · exact digits_eq_ok_iff.mpr ⟨all, value, (below n).mpr within⟩
      · exact some
      · exact first []
      · exact first
    · rw [List.singleton_append, natural]
      · exact digits_eq_ok_iff.mpr ⟨all, value, (below n).mpr within⟩
      · exact some

end Text

namespace Environment

open Text

theorem readFlag_trim_eq_ok_iff {text : String} {b : Bool} :
    readFlag (trim text.toList) = .ok b ↔ SpellsTruth text b := by
  have read (s : List Char) : readFlag s = .ok b ↔ flag? (lower s) = some b := by
    rw [readFlag]
    split <;> simp_all
  rw [read, flag?_eq_some_iff]
  constructor
  · exact fun listed => ⟨_, padded_trim _, listed⟩
  · rintro ⟨word, padded, listed⟩
    rwa [trim_of_padded padded (solid_of_mem_truthWords listed)]

theorem readNatural_trim_eq_ok_iff {bound : Nat} (pos : 0 < bound) {text : String} {n : Nat} :
    readNatural bound (trim text.toList) = .ok n ↔ SpellsNumber text n ∧ n < bound := by
  have read (s : List Char) : readNatural bound s = .ok n ↔ natural bound s = .ok n := by
    rw [readNatural]
    cases natural bound s <;> simp [Except.mapError]
  rw [read, natural_eq_ok_iff pos]
  constructor
  · rintro ⟨sign, digits, trimmed, signed, some, all, value, within⟩
    exact ⟨⟨sign, digits, trimmed ▸ padded_trim _, signed, some, all, value⟩, within⟩
  · rintro ⟨⟨sign, digits, padded, signed, some, all, value⟩, within⟩
    refine ⟨sign, digits, trim_of_padded padded ?_, signed, some, all, value, within⟩
    intro c mem
    obtain mem | mem := List.mem_append.mp mem
    · obtain rfl | rfl := signed
      · cases mem
      · obtain rfl := List.mem_singleton.mp mem
        decide
    · exact isBlank_of_isDigit (all c mem)

end Environment

end Intake
