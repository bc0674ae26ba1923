import Intake.Proofs.Json.Numeral
import Intake.Proofs.Json.Outcome

/-!
# The form of numerals

How numerals may be written, part by part, and that each part is scanned up to where it ends. The
scanner takes what has the form and nothing else, and what a numeral is read as does not hang on
what follows it.
-/

namespace Intake

namespace Json

/-! ## The parts of a numeral -/

/-- Decimal digits, at least one. -/
def Digits (s : List Char) : Prop := s ≠ [] ∧ ∀ c ∈ s, c.isDigit = true

/-- A zero, or digits that do not begin with one. -/
def IsWhole (s : List Char) : Prop := s = ['0'] ∨ Digits s ∧ s.head? ≠ some '0'

/-- Nothing, or a point and digits. -/
def IsFraction (s : List Char) : Prop := s = [] ∨ ∃ digits, Digits digits ∧ s = '.' :: digits

/-- Digits that may have a sign. -/
def IsSigned (s : List Char) : Prop :=
  ∃ sign ∈ [[], ['+'], ['-']], ∃ digits, Digits digits ∧ s = sign ++ digits

/-- Nothing, or the letter of an exponent and its digits. -/
def IsExponent (s : List Char) : Prop :=
  s = [] ∨ ∃ letter ∈ ['e', 'E'], ∃ signed, IsSigned signed ∧ s = letter :: signed

/-- A numeral without its sign. -/
def IsUnsigned (s : List Char) : Prop :=
  ∃ whole fraction exponent, IsWhole whole ∧ IsFraction fraction ∧ IsExponent exponent ∧
    s = whole ++ (fraction ++ exponent)

/-- A numeral as it may be written. -/
def IsNumeral (s : List Char) : Prop :=
  ∃ sign ∈ [[], ['-']], ∃ unsigned, IsUnsigned unsigned ∧ s = sign ++ unsigned

/-- Begins with no such character. -/
def Avoids (p : Char → Bool) : List Char → Prop
  | [] => True
  | c :: _ => p c = false

/-! ## Scanning the parts -/

/-- The scanner takes what is of this form, whatever follows, so long as it stops there, and takes
nothing else. -/
structure Scans {α : Type} (scan : Problem → List Char → Except Problem (α × List Char))
    (form stop : List Char → Prop) : Prop where
  takes : ∀ {raw}, form raw → ∃ x, ∀ cut rest, stop rest → scan cut (raw ++ rest) = .ok (x, rest)
  covers : ∀ {cut s x rest}, scan cut s = .ok (x, rest) → ∃ raw, form raw ∧ s = raw ++ rest

private theorem scans_digits : Scans scanDigits Digits (Avoids Char.isDigit) where
  takes := by
    intro raw digits
    refine ⟨raw.map digit, fun cut rest stop => ?_⟩
    have none : rest.takeWhile Char.isDigit = [] ∧ rest.dropWhile Char.isDigit = rest := by
      cases rest with
      | nil => exact ⟨rfl, rfl⟩
      | cons c rest => simp [show c.isDigit = false from stop]
    obtain ⟨c, tail, rfl⟩ := List.exists_cons_of_ne_nil digits.1
    rw [List.cons_append, scanDigits, if_pos (digits.2 c List.mem_cons_self), ← List.cons_append,
      leadingDigits, afterDigits, List.takeWhile_append_of_pos digits.2,
      List.dropWhile_append_of_pos digits.2, none.1, none.2, List.append_nil]
  covers := by
    intro cut s x rest scanned
    cases s with
    | nil => cases scanned
    | cons c s =>
      rw [scanDigits] at scanned
      split_ifs at scanned with first
      cases scanned
      refine ⟨(c :: s).takeWhile Char.isDigit, ⟨?_, fun d mem => ?_⟩, ?_⟩
      · simp [first]
      · exact List.all_eq_true.mp List.all_takeWhile d mem
      · exact List.takeWhile_append_dropWhile.symm

private theorem Avoids.imp {p q : Char → Bool} (imp : ∀ c, p c = false → q c = false)
    {s : List Char} (avoids : Avoids p s) : Avoids q s := by
  cases s with
  | nil => trivial
  | cons c s => exact imp c avoids

private theorem Scans.map {α β : Type} {scan : Problem → List Char → Except Problem (α × List Char)}
    {form stop : List Char → Prop} (scans : Scans scan form stop) (f : α → β) :
    Scans (fun cut s => (scan cut s).map fun (x, rest) => (f x, rest)) form stop where
  takes := by
    intro raw formed
    obtain ⟨x, taken⟩ := scans.takes formed
    refine ⟨f x, fun cut rest stops => ?_⟩
    dsimp only
    rw [taken cut rest stops]
    rfl
  covers := by
    intro cut s y rest scanned
    cases taken : scan cut s with
    | error => simp [taken, Except.map] at scanned
    | ok r =>
      obtain ⟨rfl, rfl⟩ : f r.1 = y ∧ r.2 = rest := by simpa [taken, Except.map] using scanned
      exact scans.covers taken

private theorem scans_whole : Scans scanWhole IsWhole (Avoids Char.isDigit) where
  takes := by
    rintro raw (rfl | ⟨digits, zero⟩)
    · refine ⟨[0], fun cut rest stop => ?_⟩
      cases rest with
      | nil => rfl
      | cons c rest =>
        change (if c.isDigit = true then _ else _) = _
        rw [if_neg (by rw [show c.isDigit = false from stop]; decide)]
    · obtain ⟨x, taken⟩ := scans_digits.takes digits
      refine ⟨x, fun cut rest stop => ?_⟩
      rw [← taken cut rest stop]
      obtain ⟨c, tail, rfl⟩ := List.exists_cons_of_ne_nil digits.1
      rw [List.cons_append, scanWhole]
      exact fun _ _ same => zero (by rw [(List.cons.inj same).1]; rfl)
  covers := by
    intro cut s x rest scanned
    unfold scanWhole at scanned
    split at scanned
    next c s =>
      split_ifs at scanned with digit
      cases scanned
      exact ⟨['0'], .inl rfl, rfl⟩
    next alone =>
      obtain ⟨raw, digits, rfl⟩ := scans_digits.covers scanned
      refine ⟨raw, ?_, rfl⟩
      by_cases zero : raw.head? = some '0'
      · obtain ⟨tail, rfl⟩ := List.head?_eq_some_iff.mp zero
        cases tail with
        | nil => exact .inl rfl
        | cons c tail => exact (alone c _ rfl).elim
      · exact .inr ⟨digits, zero⟩

private theorem scans_fraction :
    Scans scanFraction IsFraction (Avoids fun c => c.isDigit || c == '.') where
  takes := by
    rintro raw (rfl | ⟨digits, some, rfl⟩)
    · refine ⟨none, fun cut rest stop => ?_⟩
      cases rest with
      | nil => rfl
      | cons c rest =>
        rw [List.nil_append, scanFraction]
        rintro _ ⟨⟩
        cases stop
    · obtain ⟨x, taken⟩ := scans_digits.takes some
      refine ⟨x, fun cut rest stop => ?_⟩
      rw [List.cons_append, scanFraction, taken cut rest (stop.imp (by simp +contextual))]
      rfl
  covers := by
    intro cut s x rest scanned
    unfold scanFraction at scanned
    split at scanned
    next s =>
      obtain ⟨digits, some, rfl⟩ := (scans_digits.map some).covers scanned
      exact ⟨_, .inr ⟨digits, some, rfl⟩, rfl⟩
    next =>
      cases scanned
      exact ⟨[], .inl rfl, rfl⟩

private theorem scans_signed : Scans scanSigned IsSigned (Avoids Char.isDigit) where
  takes := by
    rintro raw ⟨sign, known, digits, some, rfl⟩
    obtain ⟨x, taken⟩ := scans_digits.takes some
    obtain rfl | rfl | rfl : sign = [] ∨ sign = ['+'] ∨ sign = ['-'] := by simpa using known
    · refine ⟨(false, x), fun cut rest stop => ?_⟩
      obtain ⟨c, tail, rfl⟩ := List.exists_cons_of_ne_nil some.1
      have digit := some.2 c List.mem_cons_self
      rw [List.nil_append, List.cons_append, scanSigned, ← List.cons_append, taken cut rest stop]
      · rfl
      · rintro _ ⟨⟩
        cases digit
      · rintro _ ⟨⟩
        cases digit
    · refine ⟨(false, x), fun cut rest stop => ?_⟩
      rw [List.cons_append, List.cons_append, List.nil_append, scanSigned, taken cut rest stop]
      rfl
    · refine ⟨(true, x), fun cut rest stop => ?_⟩
      rw [List.cons_append, List.cons_append, List.nil_append, scanSigned, taken cut rest stop]
      rfl
  covers := by
    intro cut s x rest scanned
    unfold scanSigned at scanned
    split at scanned
    next s =>
      obtain ⟨digits, some, rfl⟩ := (scans_digits.map (Prod.mk true)).covers scanned
      exact ⟨_, ⟨['-'], by simp, digits, some, rfl⟩, rfl⟩
    next s =>
      obtain ⟨digits, some, rfl⟩ := (scans_digits.map (Prod.mk false)).covers scanned
      exact ⟨_, ⟨['+'], by simp, digits, some, rfl⟩, rfl⟩
    next =>
      obtain ⟨digits, some, rfl⟩ := (scans_digits.map (Prod.mk false)).covers scanned
      exact ⟨_, ⟨[], by simp, digits, some, rfl⟩, rfl⟩

private theorem scans_exponent : Scans scanExponent IsExponent Ends where
  takes := by
    rintro raw (rfl | ⟨letter, known, signed, some, rfl⟩)
    · refine ⟨none, fun cut rest ends => scanExponent_of_ends cut ends⟩
    · obtain ⟨x, taken⟩ := scans_signed.takes some
      refine ⟨x, fun cut rest ends => ?_⟩
      have stop : Avoids Char.isDigit rest := by
        cases rest with
        | nil => trivial
        | cons c rest => exact ends.1
      obtain rfl | rfl : letter = 'e' ∨ letter = 'E' := by simpa using known
      · rw [List.cons_append, scanExponent, taken cut rest stop]
        rfl
      · rw [List.cons_append, scanExponent, taken cut rest stop]
        rfl
  covers := by
    intro cut s x rest scanned
    unfold scanExponent at scanned
    split at scanned
    next s =>
      obtain ⟨signed, some, rfl⟩ := (scans_signed.map some).covers scanned
      exact ⟨_, .inr ⟨'e', by simp, signed, some, rfl⟩, rfl⟩
    next s =>
      obtain ⟨signed, some, rfl⟩ := (scans_signed.map some).covers scanned
      exact ⟨_, .inr ⟨'E', by simp, signed, some, rfl⟩, rfl⟩
    next =>
      cases scanned
      exact ⟨[], .inl rfl, rfl⟩

/-- A fraction stops at what may stand behind it. -/
private theorem IsExponent.avoids {s : List Char} (exponent : IsExponent s) {rest : List Char}
    (ends : Ends rest) : Avoids (fun c => c.isDigit || c == '.') (s ++ rest) := by
  obtain rfl | ⟨letter, known, signed, _, rfl⟩ := exponent
  · cases rest with
    | nil => trivial
    | cons c rest => simp [Avoids, ends.1, ends.2.1]
  · obtain rfl | rfl : letter = 'e' ∨ letter = 'E' := by simpa using known
    · rfl
    · rfl

/-- A whole part stops at what may stand behind it. -/
private theorem IsFraction.avoids {s : List Char} (fraction : IsFraction s) {rest : List Char}
    (avoids : Avoids (fun c => c.isDigit || c == '.') rest) : Avoids Char.isDigit (s ++ rest) := by
  obtain rfl | ⟨digits, _, rfl⟩ := fraction
  · exact avoids.imp (by simp +contextual)
  · rfl

private theorem scans_unsigned (negative : Bool) :
    Scans (scanUnsigned · negative) IsUnsigned Ends where
  takes := by
    rintro raw ⟨whole, fraction, exponent, isWhole, isFraction, isExponent, rfl⟩
    obtain ⟨w, takesWhole⟩ := scans_whole.takes isWhole
    obtain ⟨f, takesFraction⟩ := scans_fraction.takes isFraction
    obtain ⟨e, takesExponent⟩ := scans_exponent.takes isExponent
    refine ⟨⟨negative, w, f, e⟩, fun cut rest ends => ?_⟩
    have behind := isExponent.avoids ends
    simp only [scanUnsigned, List.append_assoc, takesWhole cut _ (isFraction.avoids behind),
      takesFraction cut _ behind, takesExponent cut _ ends, bind, Except.bind]
    rfl
  covers := by
    intro cut s n rest scanned
    obtain ⟨⟨w, s₁⟩, takenWhole, scanned⟩ := bind_eq_ok.mp scanned
    obtain ⟨⟨f, s₂⟩, takenFraction, scanned⟩ := bind_eq_ok.mp scanned
    obtain ⟨⟨e, s₃⟩, takenExponent, scanned⟩ := bind_eq_ok.mp scanned
    cases scanned
    obtain ⟨whole, isWhole, rfl⟩ := scans_whole.covers takenWhole
    obtain ⟨fraction, isFraction, rfl⟩ := scans_fraction.covers takenFraction
    obtain ⟨exponent, isExponent, rfl⟩ := scans_exponent.covers takenExponent
    refine ⟨_, ⟨whole, fraction, exponent, isWhole, isFraction, isExponent, rfl⟩, ?_⟩
    simp only [List.append_assoc]

/-- What a numeral begins with. -/
private theorem IsUnsigned.exists_cons {s : List Char} (unsigned : IsUnsigned s) :
    ∃ c tail, s = c :: tail ∧ c.isDigit = true := by
  obtain ⟨whole, fraction, exponent, rfl | ⟨digits, _⟩, _, _, rfl⟩ := unsigned
  · exact ⟨'0', _, rfl, rfl⟩
  · obtain ⟨c, tail, rfl⟩ := List.exists_cons_of_ne_nil digits.1
    exact ⟨c, _, rfl, digits.2 c List.mem_cons_self⟩

theorem IsNumeral.exists_cons {s : List Char} (numeral : IsNumeral s) :
    ∃ c tail, s = c :: tail ∧ (c = '-' ∨ c.isDigit = true) := by
  obtain ⟨sign, known, unsigned, isUnsigned, rfl⟩ := numeral
  obtain rfl | rfl : sign = [] ∨ sign = ['-'] := by simpa using known
  · obtain ⟨c, tail, rfl, digit⟩ := isUnsigned.exists_cons
    exact ⟨c, tail, rfl, .inr digit⟩
  · exact ⟨'-', _, rfl, .inl rfl⟩

theorem scans_numeral : Scans scanNumeral IsNumeral Ends where
  takes := by
    rintro raw ⟨sign, known, unsigned, isUnsigned, rfl⟩
    obtain rfl | rfl : sign = [] ∨ sign = ['-'] := by simpa using known
    · obtain ⟨n, taken⟩ := (scans_unsigned false).takes isUnsigned
      refine ⟨n, fun cut rest ends => ?_⟩
      rw [← taken cut rest ends]
      obtain ⟨c, tail, rfl, digit⟩ := isUnsigned.exists_cons
      rw [List.nil_append, List.cons_append, scanNumeral]
      rintro _ ⟨⟩
      cases digit
    · obtain ⟨n, taken⟩ := (scans_unsigned true).takes isUnsigned
      exact ⟨n, fun cut rest ends => taken cut rest ends⟩
  covers := by
    intro cut s n rest scanned
    unfold scanNumeral at scanned
    split at scanned
    next s =>
      obtain ⟨raw, isUnsigned, rfl⟩ := (scans_unsigned true).covers scanned
      exact ⟨_, ⟨['-'], by simp, raw, isUnsigned, rfl⟩, rfl⟩
    next =>
      obtain ⟨raw, isUnsigned, rfl⟩ := (scans_unsigned false).covers scanned
      exact ⟨_, ⟨[], by simp, raw, isUnsigned, rfl⟩, rfl⟩

theorem isNumeral_of_scan {raw : List Char}
    (scanned : (scanNumeral .badNumber raw).map Prod.snd = .ok []) : IsNumeral raw := by
  obtain ⟨⟨n, rest⟩, scanned, rfl⟩ := map_eq_ok.mp scanned
  obtain ⟨other, numeral, same⟩ := scans_numeral.covers scanned
  rwa [same, List.append_nil]

/-! ## Reading numerals -/

/-- What a numeral is read as, if its magnitude is within range. -/
def number? (raw : List Char) : Option Number := (readNumber raw).toOption.map Prod.fst

/-- What a numeral is read as does not hang on what follows. -/
theorem IsNumeral.read {raw rest : List Char} (numeral : IsNumeral raw) (ends : Ends rest) :
    (readNumber (raw ++ rest)).toOption = (number? raw).map (·, rest) := by
  obtain ⟨n, taken⟩ := scans_numeral.takes numeral
  have read (rest : List Char) (ends : Ends rest) :
      (readNumber (raw ++ rest)).toOption = n.number?.map (·, rest) := by
    simp only [readNumber, bind, Except.bind, taken .endInValue rest ends]
    cases n.number? <;> rfl
  have alone := read [] trivial
  rw [List.append_nil] at alone
  rw [read rest ends, number?, alone]
  cases n.number? <;> rfl

theorem exists_numeral {s rest : List Char} {n : Number} (read : readNumber s = .ok (n, rest)) :
    ∃ raw, IsNumeral raw ∧ s = raw ++ rest := by
  obtain ⟨⟨numeral, rest'⟩, scanned, valued⟩ := bind_eq_ok.mp read
  cases number : numeral.number? with
  | none => simp [number, throw, throwThe, MonadExceptOf.throw] at valued
  | some m =>
    simp only [number] at valued
    cases valued
    exact scans_numeral.covers scanned

end Json

end Intake
