import Intake.Proofs.Json.Layout

/-!
# Passing over trees

Every tree is passed over as a whole, however deep it nests: no value of an unknown field stands in
the way of the fields behind it.
-/

namespace Intake

namespace Json

variable {first : Bool} {text : List Char}

section

variable {item : List Char → Except Problem (List Char)} {m n : Nat}

/-- Every layout of the tree that is short enough is passed over, whatever follows. -/
def Passes (item : List Char → Except Problem (List Char)) (m : Nat) (t : Tree) : Prop :=
  ∀ text rest, Laid t.tokens text → text.length < m → Ends rest → item (text ++ rest) = .ok rest

private theorem skipItems_of_laid {items : List Tree} (formed : ∀ x ∈ items, x.Formed)
    (passes : ∀ x ∈ items, Passes item m x) (laid : Laid (itemTokens first items) text)
    (short : text.length < m) (fuel : text.length ≤ n) (rest : List Char) :
    skipItems item n first (text ++ rest) = .ok rest := by
  induction items generalizing first text n with
  | nil =>
    obtain ⟨s, ⟨⟩, shorter, skipped⟩ := laid.skip (c := ']') rfl
    simp only [List.length_cons] at shorter
    obtain ⟨n, rfl⟩ := Nat.exists_eq_add_of_lt (show 0 < n by omega)
    simp [skipItems, skipped]
  | cons x items ih =>
    obtain ⟨formedItem, formedMore⟩ := List.forall_mem_cons.mp formed
    obtain ⟨passesItem, passesMore⟩ := List.forall_mem_cons.mp passes
    obtain ⟨pre, s, parts, rfl, before⟩ := laid_parted laid
    obtain ⟨a, b, laidItem, laidMore, rfl⟩ := parts.split
    obtain ⟨c, s, begins, laidOpen, shorter, skipped⟩ := formedItem.opens laidItem
    obtain ⟨_, _, bracket⟩ := begins.inner
    simp only [List.length_append, List.length_cons] at shorter short fuel
    obtain ⟨n, rfl⟩ := Nat.exists_eq_add_of_lt (show 0 < n by omega)
    have more := ih formedMore passesMore laidMore (by omega) (n := n) (by omega)
    obtain ⟨rfl, rfl⟩ | ⟨rfl, gap, blank, rfl⟩ := before
    · have here := passesItem _ (b ++ rest) laidOpen (by rw [List.length_cons]; omega)
        (laidMore.ends_items rest)
      rw [List.cons_append] at here
      simp [skipItems, skipped, here, more, bind, Except.bind]
    · have here := passesItem _ (b ++ rest) laidItem (by omega) (laidMore.ends_items rest)
      simp [skipItems, blank.skip (c := ',') rfl, here, more, bind, Except.bind]

private theorem skipName_of_laid {raw : List Char} {tokens : List (List Char)} (shape : Shape raw)
    (laid : Laid (quoted raw :: [':'] :: tokens) text) :
    ∃ s, Laid tokens s ∧ s.length < text.length ∧
      ∀ rest, skipName (text ++ rest) = .ok (s ++ rest) := by
  obtain ⟨s, parts, shorter, skipped⟩ := laid.skip (c := '"') rfl
  obtain ⟨colon, s, laidColon, laidMore, rfl⟩ := Laid.split (a := [[':']]) parts
  simp only [List.length_append, List.length_cons] at shorter
  refine ⟨s, laidMore, by omega, fun rest => ?_⟩
  simp [skipName, skipped, shape.skip, bind, Except.bind, skipColon_colon laidColon]

private theorem skipName_skipBlanks (s : List Char) : skipName (skipBlanks s) = skipName s := by
  rw [skipName, skipName, skipBlanks_skipBlanks]

private theorem skipEntries_of_laid {members : List (List Char × Tree)}
    (names : ∀ x ∈ members, Shape x.1) (passes : ∀ x ∈ members, Passes item m x.2)
    (laid : Laid (memberTokens first members) text) (short : text.length < m)
    (fuel : text.length ≤ n) (rest : List Char) :
    skipEntries item n first (text ++ rest) = .ok rest := by
  induction members generalizing first text n with
  | nil =>
    obtain ⟨s, ⟨⟩, shorter, skipped⟩ := laid.skip (c := '\x7d') rfl
    simp only [List.length_cons] at shorter
    obtain ⟨n, rfl⟩ := Nat.exists_eq_add_of_lt (show 0 < n by omega)
    simp [skipEntries, skipped]
  | cons x members ih =>
    obtain ⟨raw, value⟩ := x
    obtain ⟨shape, names⟩ := List.forall_mem_cons.mp names
    obtain ⟨passesValue, passes⟩ := List.forall_mem_cons.mp passes
    obtain ⟨pre, s, parts, rfl, before⟩ := laid_parted laid
    obtain ⟨s', parts', shorter, named⟩ := skipName_of_laid shape parts
    obtain ⟨a, b, laidValue, laidMore, rfl⟩ := parts'.split
    simp only [List.length_append] at shorter short fuel
    obtain ⟨n, rfl⟩ := Nat.exists_eq_add_of_lt (show 0 < n by omega)
    have here := passesValue _ (b ++ rest) laidValue (by omega) (laidMore.ends_members rest)
    have more := ih names passes laidMore (by omega) (n := n) (by omega)
    obtain ⟨rfl, rfl⟩ | ⟨rfl, gap, blank, rfl⟩ := before
    · obtain ⟨tail, _, _, skipped⟩ := parts.skip (c := '"') rfl
      have opened := named rest
      rw [← skipName_skipBlanks, skipped] at opened
      simp only [List.append_assoc, List.cons_append, List.nil_append] at opened
      simp [skipEntries, skipped, opened, here, more, bind, Except.bind]
    · simp [skipEntries, blank.skip (c := ',') rfl, named, here, more, bind, Except.bind]

end

/-- Every tree is passed over, if the number is larger than its layout is long. -/
theorem Tree.Formed.passes {t : Tree} (formed : t.Formed) (n : Nat) : Passes (skipValue n) n t := by
  induction formed generalizing n with
  | null =>
    intro text rest laid short ends
    obtain ⟨n, rfl⟩ := Nat.exists_eq_add_of_lt short
    simp [skipValue, laid.skip_token (c := 'n') rfl, readWord]
  | boolean b =>
    intro text rest laid short ends
    obtain ⟨n, rfl⟩ := Nat.exists_eq_add_of_lt short
    cases b
    · simp [skipValue, laid.skip_token (c := 'f') rfl, readWord]
    · simp [skipValue, laid.skip_token (c := 't') rfl, readWord]
  | numeral numeral =>
    intro text rest laid short ends
    obtain ⟨n, rfl⟩ := Nat.exists_eq_add_of_lt short
    obtain ⟨x, scanned⟩ := scans_numeral.takes numeral
    have scanned := scanned .badNumber rest ends
    obtain ⟨c, tail, rfl, first⟩ := numeral.exists_cons
    rw [List.cons_append] at scanned
    simp [skipValue, laid.skip_token (solid_of_number first), ne_of_number first, first, scanned,
      Except.map]
  | text shape =>
    intro text rest laid short ends
    obtain ⟨n, rfl⟩ := Nat.exists_eq_add_of_lt short
    simp [skipValue, laid.skip_text, shape.skip]
  | list formed ih =>
    intro text rest laid short ends
    obtain ⟨n, rfl⟩ := Nat.exists_eq_add_of_lt short
    obtain ⟨body, laidItems, shorter, skipped⟩ := laid.skip (c := '[') rfl
    simp only [List.nil_append, List.length_cons] at shorter
    simp only [skipValue, skipped, List.nil_append]
    exact skipItems_of_laid formed (fun x mem => ih x mem _) laidItems (by omega) (by omega) rest
  | object names formed ih =>
    intro text rest laid short ends
    obtain ⟨n, rfl⟩ := Nat.exists_eq_add_of_lt short
    obtain ⟨body, laidMembers, shorter, skipped⟩ := laid.skip (c := '\x7b') rfl
    simp only [List.nil_append, List.length_cons] at shorter
    simp only [skipValue, skipped, List.nil_append]
    exact skipEntries_of_laid names (fun x mem => ih x mem _) laidMembers (by omega) (by omega) rest

end Json

end Intake
