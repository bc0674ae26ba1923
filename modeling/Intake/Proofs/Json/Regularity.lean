import Intake.Json.Record
import Intake.Proofs.Json.Layout

/-!
# The layout does not matter

What is made of a tree does not hang on how it is laid out or on what follows it: whether it is
taken and as what is the same in every layout. So it is for values that are kept, and values that
are passed over are always taken.
-/

namespace Intake

namespace Json

variable {α β : Type} {text rest : List Char}

/-- What a reader makes of a tree, if it takes it. -/
def Tree.readBy (read : Reader α) (t : Tree) : Option α :=
  (read t.tokens.flatten).toOption.map Prod.fst

/-- However the tree is laid out and whatever follows, the reader takes it for this, or does not
take it. -/
def Tree.Gives (read : Reader α) (t : Tree) (o : Option α) : Prop :=
  ∀ text rest, Laid t.tokens text → Ends rest → (read (text ++ rest)).toOption = o.map (·, rest)

/-- The reader takes a tree as a whole or not at all, and the same in every layout. -/
def Regular (read : Reader α) : Prop := ∀ ⦃t : Tree⦄, t.Formed → t.Gives read (t.readBy read)

theorem Tree.Gives.readBy_eq {read : Reader α} {t : Tree} {o : Option α} (gives : t.Gives read o) :
    t.readBy read = o := by
  have alone := gives _ [] (laid_flatten t.tokens) trivial
  rw [List.append_nil] at alone
  rw [Tree.readBy, alone]
  cases o <;> rfl

theorem regular_of_exists {read : Reader α}
    (gives : ∀ t : Tree, t.Formed → ∃ o, t.Gives read o) : Regular read := by
  intro t formed
  obtain ⟨o, gives⟩ := gives t formed
  exact gives.readBy_eq ▸ gives

private theorem Tree.Gives.map {read : Reader α} {t : Tree} {o : Option α} (gives : t.Gives read o)
    (f : α → β) : t.Gives (fun s => (read s).map fun (x, rest) => (f x, rest)) (o.map f) := by
  intro text rest laid ends
  rw [toOption_map, gives text rest laid ends]
  cases o <;> rfl

theorem Regular.map {read : Reader α} (regular : Regular read) (f : α → β) :
    Regular fun s => (read s).map fun (x, rest) => (f x, rest) :=
  regular_of_exists fun _ formed => ⟨_, (regular formed).map f⟩

/-! ## Scalars -/

/-- A reader that refuses what begins otherwise refuses every layout of a tree that does. -/
theorem Tree.Formed.refused {read : Reader α} {accepts : Char → Prop}
    (refuses : ∀ {s c rest}, skipBlanks s = c :: rest → ¬ accepts c → (read s).toOption = none)
    {t : Tree} (formed : t.Formed) (foreign : ∀ c, t.Begins c → ¬ accepts c) :
    t.Gives read (none : Option α) := by
  intro text rest laid _
  obtain ⟨c, s, begins, _, _, skipped⟩ := formed.opens laid
  exact refuses (skipped rest) (foreign c begins)

theorem regular_readBoolean : Regular readBoolean := by
  have refuses {s : List Char} {c : Char} {rest : List Char} (shown : skipBlanks s = c :: rest)
      (other : ¬ (c = 't' ∨ c = 'f')) : (readBoolean s).toOption = none := by
    obtain ⟨yes, no⟩ := not_or.mp other
    simp [readBoolean, shown, yes, no]
  refine regular_of_exists fun t formed => ?_
  cases t with
  | boolean b =>
    refine ⟨some b, fun _ _ laid _ => ?_⟩
    cases b
    · simp [readBoolean, laid.skip_token (c := 'f') rfl, readWord, Except.map]
    · simp [readBoolean, laid.skip_token (c := 't') rfl, readWord, Except.map]
  | numeral => exact ⟨none, formed.refused refuses fun c begins => by simp [ne_of_number begins]⟩
  | _ => exact ⟨none, formed.refused refuses (by simp [Tree.Begins])⟩

theorem regular_readText : Regular readText := by
  have refuses {s : List Char} {c : Char} {rest : List Char} (shown : skipBlanks s = c :: rest)
      (other : ¬ c = '"') : (readText s).toOption = none := by
    simp [readText, shown, other]
  refine regular_of_exists fun t formed => ?_
  cases t with
  | text raw =>
    refine ⟨(chars? raw).map String.ofList, fun text rest laid _ => ?_⟩
    cases formed with
    | text shape =>
      simp only [readText, laid.skip_text, toOption_map, shape.read]
      cases chars? raw <;> rfl
  | boolean b => cases b <;> exact ⟨none, formed.refused refuses (by simp [Tree.Begins])⟩
  | numeral => exact ⟨none, formed.refused refuses fun c begins => by simp [ne_of_number begins]⟩
  | _ => exact ⟨none, formed.refused refuses (by simp [Tree.Begins])⟩

/-- A number as a whole number below a bound. -/
def natural? (bound : Nat) : Number → Option Nat
  | .integer n => if 0 ≤ n ∧ n < bound then some n.toNat else none
  | .real _ => none

private theorem readNatural_of_number {expected : String} {bound : Nat} {s rest : List Char}
    {c : Char} (shown : skipBlanks s = c :: rest) (first : c = '-' ∨ c.isDigit = true) :
    (readNatural expected bound s).toOption =
      (readNumber (c :: rest)).toOption.bind fun (n, rest) => (natural? bound n).map (·, rest) := by
  have begins : (c = '-' || c.isDigit) = true := by simpa using first
  rw [readNatural, shown]
  dsimp only
  rw [if_pos begins]
  obtain _ | ⟨n | d, rest⟩ := readNumber (c :: rest)
  · rfl
  · simp only [natural?, toOption_ok, Option.bind_some]
    split_ifs <;> rfl
  · rfl

theorem regular_readNatural (expected : String) (bound : Nat) :
    Regular (readNatural expected bound) := by
  have refuses {s : List Char} {c : Char} {rest : List Char} (shown : skipBlanks s = c :: rest)
      (other : ¬ (c = '-' ∨ c.isDigit = true)) :
      (readNatural expected bound s).toOption = none := by
    simp [readNatural, shown, other]
  refine regular_of_exists fun t formed => ?_
  cases t with
  | numeral raw =>
    refine ⟨(number? raw).bind (natural? bound), fun text rest laid ends => ?_⟩
    cases formed with
    | numeral numeral =>
      have read := numeral.read ends
      obtain ⟨c, tail, rfl, first⟩ := numeral.exists_cons
      rw [readNatural_of_number (laid.skip_token (solid_of_number first) rest) first]
      rw [List.cons_append] at read
      rw [read]
      cases number? (c :: tail) <;> rfl
  | boolean b => cases b <;> exact ⟨none, formed.refused refuses (by simp [Tree.Begins])⟩
  | _ => exact ⟨none, formed.refused refuses (by simp [Tree.Begins])⟩

end Json

end Intake
