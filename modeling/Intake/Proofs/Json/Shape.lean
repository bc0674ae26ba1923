import Intake.Proofs.Json.Outcome
import Intake.Proofs.Json.Text

/-!
# The form of texts

How characters may be written between quotes. What has the form is passed over up to its closing
quote, and read as what it stands for if its surrogates are paired; nothing else is taken.
-/

namespace Intake

namespace Json

/-- The characters between quotes as they may be written: escapes, and all other characters but
control characters. -/
inductive Shape : List Char → Prop
  | nil : Shape []
  | plain {c : Char} {raw : List Char} (quote : c ≠ '"') (backslash : c ≠ '\\')
      (printable : ¬ c.toNat < 0x20) (more : Shape raw) : Shape (c :: raw)
  | escape {e : Char} {raw : List Char} (known : (escaped? e).isSome) (more : Shape raw) :
      Shape ('\\' :: e :: raw)
  | unit {a b c d : Char} {raw : List Char} (hex : (codeUnit? a b c d).isSome)
      (more : Shape raw) : Shape ('\\' :: 'u' :: a :: b :: c :: d :: raw)

/-- What is written stands for these characters; surrogates stand in pairs. -/
inductive Spells : List Char → List Char → Prop
  | nil : Spells [] []
  | plain {c : Char} {raw s : List Char} (quote : c ≠ '"') (backslash : c ≠ '\\')
      (printable : ¬ c.toNat < 0x20) (more : Spells raw s) : Spells (c :: raw) (c :: s)
  | escape {e c : Char} {raw s : List Char} (known : escaped? e = some c) (more : Spells raw s) :
      Spells ('\\' :: e :: raw) (c :: s)
  | unit {a b c d : Char} {code : Nat} {raw s : List Char} (hex : codeUnit? a b c d = some code)
      (leading : isLeading code = false) (trailing : isTrailing code = false)
      (more : Spells raw s) :
      Spells ('\\' :: 'u' :: a :: b :: c :: d :: raw) (Char.ofNat code :: s)
  | pair {a b c d a' b' c' d' : Char} {lead trail : Nat} {raw s : List Char}
      (hex : codeUnit? a b c d = some lead) (leading : isLeading lead = true)
      (hex' : codeUnit? a' b' c' d' = some trail) (trailing : isTrailing trail = true)
      (more : Spells raw s) :
      Spells ('\\' :: 'u' :: a :: b :: c :: d :: '\\' :: 'u' :: a' :: b' :: c' :: d' :: raw)
        (pairChar lead trail :: s)

theorem Spells.shape {raw s : List Char} (spells : Spells raw s) : Shape raw := by
  induction spells with
  | nil => exact .nil
  | plain quote backslash printable _ ih => exact .plain quote backslash printable ih
  | escape known _ ih => exact .escape (Option.isSome_of_eq_some known) ih
  | unit hex _ _ _ ih => exact .unit (Option.isSome_of_eq_some hex) ih
  | pair hex _ hex' _ _ ih =>
    exact .unit (Option.isSome_of_eq_some hex) (.unit (Option.isSome_of_eq_some hex') ih)

/-- A surrogate is not both at once. -/
private theorem isTrailing_of_isLeading {code : Nat} (leading : isLeading code = true) :
    isTrailing code = false := by
  simp only [isLeading, isTrailing, Bool.and_eq_true, decide_eq_true_eq, Bool.and_eq_false_iff,
    decide_eq_false_iff_not] at leading ⊢
  omega

/-- The letter of a hexadecimal escape is no escape of its own. -/
private theorem ne_of_escaped? {e : Char} (known : (escaped? e).isSome) : e ≠ 'u' := by
  rintro rfl
  cases known

private theorem skipChars_plain {c : Char} (quote : c ≠ '"') (backslash : c ≠ '\\')
    (printable : ¬ c.toNat < 0x20) (s : List Char) : skipChars (c :: s) = skipChars s := by
  rw [skipChars, if_neg printable]
  all_goals simp_all

private theorem skipChars_escape {e : Char} (known : (escaped? e).isSome) (s : List Char) :
    skipChars ('\\' :: e :: s) = skipChars s := by
  obtain ⟨c, escaped⟩ := Option.isSome_iff_exists.mp known
  have letter := ne_of_escaped? known
  rw [skipChars, escaped]
  all_goals simp_all

private theorem readChars_escape {e c : Char} (known : escaped? e = some c) (s : List Char) :
    readChars ('\\' :: e :: s) = withChar c (readChars s) := by
  have letter := ne_of_escaped? (Option.isSome_of_eq_some known)
  rw [readChars, known]
  all_goals simp_all

/-- Whatever has the shape of a text is passed over up to its closing quote. -/
theorem Shape.skip {raw : List Char} (shape : Shape raw) (rest : List Char) :
    skipChars (raw ++ '"' :: rest) = .ok rest := by
  induction shape with
  | nil => rfl
  | plain quote backslash printable _ ih =>
    rw [List.cons_append, skipChars_plain quote backslash printable, ih]
  | escape known _ ih => rw [List.cons_append, List.cons_append, skipChars_escape known, ih]
  | unit hex _ ih =>
    obtain ⟨code, hex⟩ := Option.isSome_iff_exists.mp hex
    simp only [List.cons_append, skipChars, hex, ih]

/-- Whatever is passed over up to a quote has the shape of a text. -/
theorem exists_shape {s rest : List Char} (skipped : skipChars s = .ok rest) :
    ∃ raw, Shape raw ∧ s = raw ++ '"' :: rest := by
  fun_induction skipChars s with
  | case2 rest' => exact ⟨[], .nil, by rw [Except.ok.inj skipped, List.nil_append]⟩
  | case4 a b c d s code hex ih =>
    obtain ⟨raw, shape, rfl⟩ := ih skipped
    exact ⟨_, .unit (Option.isSome_of_eq_some hex) shape, rfl⟩
  | case7 e s _ _ c known ih =>
    obtain ⟨raw, shape, rfl⟩ := ih skipped
    exact ⟨_, .escape (Option.isSome_of_eq_some known) shape, rfl⟩
  | case10 c s quote _ _ alone pair printable ih =>
    obtain ⟨raw, shape, rfl⟩ := ih skipped
    have backslash : c ≠ '\\' := by
      rintro rfl
      obtain _ | ⟨e, raw⟩ := raw
      · exact pair '"' rest rfl rfl
      · exact pair e _ rfl rfl
    exact ⟨_, .plain quote backslash printable shape, rfl⟩
  | _ => cases skipped

theorem shape_of_skip {raw : List Char} (skipped : skipChars (raw ++ ['"']) = .ok []) :
    Shape raw := by
  obtain ⟨other, shape, same⟩ := exists_shape skipped
  rwa [List.append_cancel_right same]

/-- A text is read as what it stands for, up to its closing quote. -/
private theorem Spells.read {raw s : List Char} (spells : Spells raw s) (rest : List Char) :
    readChars (raw ++ '"' :: rest) = .ok (s, rest) := by
  induction spells with
  | nil => rfl
  | plain quote backslash printable _ ih =>
    rw [List.cons_append, readChars_plain quote backslash printable, ih, withChar_ok]
  | escape known _ ih =>
    rw [List.cons_append, List.cons_append, readChars_escape known, ih, withChar_ok]
  | unit hex leading trailing _ ih =>
    simp only [List.cons_append, readChars, hex, leading, trailing, ih, withChar_ok,
      Bool.false_eq_true, if_false]
  | pair hex leading hex' trailing _ ih =>
    simp only [List.cons_append, readChars, hex, leading, isTrailing_of_isLeading leading, hex',
      trailing, ih, withChar_ok, Bool.false_eq_true, if_false, if_true]

private theorem exists_of_withChar {c : Char} {r : Except Problem (List Char × List Char)}
    {s rest : List Char} (put : withChar c r = .ok (s, rest)) :
    ∃ tail, s = c :: tail ∧ r = .ok (tail, rest) := by
  obtain _ | ⟨tail, rest'⟩ := r
  · cases put
  · cases put
    exact ⟨tail, rfl, rfl⟩

/-- Whatever is read up to a quote stands for what it is read as. -/
theorem exists_spells {text s rest : List Char} (read : readChars text = .ok (s, rest)) :
    ∃ raw, Spells raw s ∧ text = raw ++ '"' :: rest := by
  fun_induction readChars text generalizing s with
  | case2 text =>
    cases read
    exact ⟨[], .nil, rfl⟩
  | case6 a b c d lead hex _ leading a' b' c' d' text trail hex' trailing ih =>
    obtain ⟨tail, rfl, more⟩ := exists_of_withChar read
    obtain ⟨raw, spells, rfl⟩ := ih more
    exact ⟨_, .pair hex leading hex' trailing spells, rfl⟩
  | case12 a b c d text code hex trailing leading ih =>
    obtain ⟨tail, rfl, more⟩ := exists_of_withChar read
    obtain ⟨raw, spells, rfl⟩ := ih more
    exact ⟨_, .unit hex (Bool.not_eq_true _ ▸ leading) (Bool.not_eq_true _ ▸ trailing) spells, rfl⟩
  | case15 e text _ _ c known ih =>
    obtain ⟨tail, rfl, more⟩ := exists_of_withChar read
    obtain ⟨raw, spells, rfl⟩ := ih more
    exact ⟨_, .escape known spells, rfl⟩
  | case18 c text quote _ _ alone pair printable ih =>
    obtain ⟨tail, rfl, more⟩ := exists_of_withChar read
    obtain ⟨raw, spells, rfl⟩ := ih more
    have backslash : c ≠ '\\' := by
      rintro rfl
      obtain _ | ⟨e, raw⟩ := raw
      · exact pair '"' rest rfl rfl
      · exact pair e _ rfl rfl
    exact ⟨_, .plain quote backslash printable spells, rfl⟩
  | _ => cases read

theorem spells_of_read {raw s : List Char} (read : readChars (raw ++ ['"']) = .ok (s, [])) :
    Spells raw s := by
  obtain ⟨other, spells, same⟩ := exists_spells read
  rwa [List.append_cancel_right same]

/-- What is read from behind a quote is all of the text there, and stands for what it is read as. -/
private theorem Shape.spells_of_read {raw s more rest : List Char} (shape : Shape raw)
    (read : readChars (raw ++ '"' :: more) = .ok (s, rest)) : Spells raw s := by
  obtain ⟨other, spells, same⟩ := exists_spells read
  -- Both texts are passed over up to their closing quotes: it is one quote.
  have skipped := shape.skip more
  rw [same, spells.shape.skip] at skipped
  obtain rfl := Except.ok.inj skipped
  rwa [List.append_cancel_right same]

/-- What the characters between quotes stand for, if they stand for anything. -/
def chars? (raw : List Char) : Option (List Char) :=
  (readChars (raw ++ ['"'])).toOption.map Prod.fst

theorem Spells.chars?_eq {raw s : List Char} (spells : Spells raw s) : chars? raw = some s := by
  rw [chars?, spells.read]
  rfl

theorem Shape.chars?_eq_some_iff {raw s : List Char} (shape : Shape raw) :
    chars? raw = some s ↔ Spells raw s := by
  refine ⟨fun given => ?_, Spells.chars?_eq⟩
  unfold chars? at given
  cases read : readChars (raw ++ ['"']) with
  | error => simp [read, Except.toOption] at given
  | ok r =>
    obtain rfl : r.1 = s := by simpa [read, Except.toOption] using given
    exact shape.spells_of_read read

/-- What is read from behind a quote does not hang on what follows the closing one. -/
theorem Shape.read {raw : List Char} (shape : Shape raw) (rest : List Char) :
    (readChars (raw ++ '"' :: rest)).toOption = (chars? raw).map (·, rest) := by
  cases read : readChars (raw ++ '"' :: rest) with
  | ok r =>
    have spells := shape.spells_of_read read
    rw [spells.chars?_eq, ← read, spells.read]
    rfl
  | error =>
    cases given : chars? raw with
    | none => rfl
    | some s =>
      rw [(shape.chars?_eq_some_iff.mp given).read] at read
      cases read

end Json

end Intake
