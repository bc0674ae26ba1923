import Intake.Proofs.Json.Tree

/-!
# Separators in layouts

What the readers of separators find in the layout of a list or an object.
-/

namespace Intake

namespace Json

variable {first : Bool} {text rest : List Char}

/-! ## Items of a list -/

theorem laid_parted {tokens : List (List Char)} (laid : Laid (parted first tokens) text) :
    ∃ pre s, Laid tokens s ∧ text = pre ++ s ∧
      (first = true ∧ pre = [] ∨ first = false ∧ ∃ gap, Blank gap ∧ pre = gap ++ [',']) := by
  cases first with
  | true => exact ⟨[], text, laid, rfl, .inl ⟨rfl, rfl⟩⟩
  | false =>
    cases laid with
    | @cons _ gap s _ blank more =>
      exact ⟨gap ++ [','], s, more, by simp, .inr ⟨rfl, gap, blank, rfl⟩⟩

/-- The end of a list is found at its closing bracket. -/
theorem nextItem_close (laid : Laid (itemTokens first []) text) (rest : List Char) :
    nextItem first (text ++ rest) = .ok none ∧ (skipBlanks (text ++ rest)).drop 1 = rest := by
  obtain ⟨s, ⟨⟩, _, skipped⟩ := laid.skip (c := ']') rfl
  simp [nextItem, skipped]

/-- The next item of a list is found behind its separator. -/
theorem nextItem_item {item : Tree} {items : List Tree} (formed : item.Formed)
    (laid : Laid (itemTokens first (item :: items)) text) :
    ∃ a b, Laid item.tokens a ∧ Laid (itemTokens false items) b ∧ a ≠ [] ∧
      (a ++ b).length ≤ text.length ∧
      ∀ rest, nextItem first (text ++ rest) = .ok (some (a ++ (b ++ rest))) := by
  obtain ⟨pre, s, parts, rfl, before⟩ := laid_parted laid
  obtain ⟨a, b, laidItem, laidMore, rfl⟩ := parts.split
  obtain ⟨c, s, begins, laidItem, shorter, skipped⟩ := formed.opens laidItem
  obtain ⟨_, _, bracket⟩ := begins.inner
  refine ⟨c :: s, b, laidItem, laidMore, List.cons_ne_nil c s, ?_, fun rest => ?_⟩
  · simp only [List.length_append] at shorter ⊢
    omega
  · obtain ⟨rfl, rfl⟩ | ⟨rfl, gap, blank, rfl⟩ := before
    · simp [nextItem, skipped]
    · simp [nextItem, skipped, bracket, blank.skip (c := ',') rfl]

private theorem Laid.ends {c : Char} {token : List Char} {tokens : List (List Char)}
    (laid : Laid ((c :: token) :: tokens) text) (stops : Ends [c]) (rest : List Char) :
    Ends (text ++ rest) := by
  cases laid with
  | cons _ blank =>
    rw [List.append_assoc]
    exact blank.ends stops

/-- A numeral ends where the next item or the end of the list begins. -/
theorem Laid.ends_items {items : List Tree} (laid : Laid (itemTokens false items) text)
    (rest : List Char) : Ends (text ++ rest) := by
  cases items with
  | nil => exact laid.ends ⟨rfl, by decide, by decide, by decide⟩ rest
  | cons item items => exact laid.ends ⟨rfl, by decide, by decide, by decide⟩ rest

/-! ## Members of an object -/

/-- The end of an object is found at its closing brace. -/
theorem nextName_close (laid : Laid (memberTokens first []) text) (rest : List Char) :
    nextName first (text ++ rest) = .ok none ∧ (skipBlanks (text ++ rest)).drop 1 = rest := by
  obtain ⟨s, ⟨⟩, _, skipped⟩ := laid.skip (c := '\x7d') rfl
  simp [nextName, skipped]

/-- The next name of an object is read behind its separator. -/
theorem nextName_member {raw : List Char} {value : Tree} {members : List (List Char × Tree)}
    (laid : Laid (memberTokens first ((raw, value) :: members)) text) :
    ∃ colon a b, Laid [[':']] colon ∧ Laid value.tokens a ∧ Laid (memberTokens false members) b ∧
      (colon ++ (a ++ b)).length < text.length ∧
      ∀ rest, nextName first (text ++ rest) =
        (readChars (raw ++ '"' :: (colon ++ (a ++ (b ++ rest))))).map some := by
  obtain ⟨pre, s, parts, rfl, before⟩ := laid_parted laid
  obtain ⟨s, parts, shorter, skipped⟩ := parts.skip (c := '"') rfl
  obtain ⟨colon, s, laidColon, more, rfl⟩ := Laid.split (a := [[':']]) parts
  obtain ⟨a, b, laidValue, laidMore, rfl⟩ := more.split
  refine ⟨colon, a, b, laidColon, laidValue, laidMore, ?_, fun rest => ?_⟩
  · simp only [List.length_append, List.length_cons] at shorter ⊢
    omega
  · obtain ⟨rfl, rfl⟩ | ⟨rfl, gap, blank, rfl⟩ := before
    · simp [nextName, skipped]
    · simp [nextName, skipped, blank.skip (c := ',') rfl]

theorem skipColon_colon (laid : Laid [[':']] text) (rest : List Char) :
    skipColon (text ++ rest) = .ok rest := by
  obtain ⟨s, ⟨⟩, _, skipped⟩ := laid.skip (c := ':') rfl
  simp [skipColon, skipped]

theorem Laid.ends_members {members : List (List Char × Tree)}
    (laid : Laid (memberTokens false members) text) (rest : List Char) : Ends (text ++ rest) := by
  cases members with
  | nil => exact laid.ends ⟨rfl, by decide, by decide, by decide⟩ rest
  | cons member members => exact laid.ends ⟨rfl, by decide, by decide, by decide⟩ rest

end Json

end Intake
