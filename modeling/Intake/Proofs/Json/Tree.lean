import Intake.Proofs.Json.Scanning
import Intake.Proofs.Json.Shape
import Intake.Proofs.Json.Value

/-!
# Trees and their layouts

A tree is a JSON text but for its blanks: its literals are kept as they are written and the members
of its objects in their order. A text is laid out from a tree when it consists of the tree's tokens
with any blanks before each of them.
-/

namespace Intake

namespace Json

inductive Tree where
  | null
  | boolean (b : Bool)
  | numeral (raw : List Char)
  | text (raw : List Char)
  | list (items : List Tree)
  | object (members : List (List Char × Tree))

def quoted (raw : List Char) : List Char := '"' :: (raw ++ ['"'])

/-- A part of a list or an object, with a comma before it unless it is the first. -/
def parted (first : Bool) (tokens : List (List Char)) : List (List Char) :=
  if first then tokens else [','] :: tokens

mutual

def Tree.tokens : Tree → List (List Char)
  | .null => [['n', 'u', 'l', 'l']]
  | .boolean b => [printBoolean b]
  | .numeral raw => [raw]
  | .text raw => [quoted raw]
  | .list items => ['['] :: itemTokens true items
  | .object members => ['\x7b'] :: memberTokens true members

/-- The tokens of the items of a list, behind its opening bracket. -/
def itemTokens : Bool → List Tree → List (List Char)
  | _, [] => [[']']]
  | first, item :: items => parted first (item.tokens ++ itemTokens false items)

/-- The tokens of the members of an object, behind its opening brace. -/
def memberTokens : Bool → List (List Char × Tree) → List (List Char)
  | _, [] => [['\x7d']]
  | first, (raw, value) :: members =>
    parted first (quoted raw :: [':'] :: (value.tokens ++ memberTokens false members))

end

/-- The tokens one after the other, with blanks before each of them. -/
inductive Laid : List (List Char) → List Char → Prop
  | nil : Laid [] []
  | cons (token : List Char) {gap s : List Char} {tokens : List (List Char)} (blank : Blank gap)
      (more : Laid tokens s) : Laid (token :: tokens) (gap ++ (token ++ s))

/-- All literals have their forms. -/
inductive Tree.Formed : Tree → Prop
  | null : Formed .null
  | boolean (b : Bool) : Formed (.boolean b)
  | numeral {raw : List Char} (numeral : IsNumeral raw) : Formed (.numeral raw)
  | text {raw : List Char} (shape : Shape raw) : Formed (.text raw)
  | list {items : List Tree} (formed : ∀ item ∈ items, item.Formed) : Formed (.list items)
  | object {members : List (List Char × Tree)} (names : ∀ member ∈ members, Shape member.1)
      (formed : ∀ member ∈ members, member.2.Formed) : Formed (.object members)

/-- What the layout of a tree begins with, blanks apart. -/
def Tree.Begins : Tree → Char → Prop
  | .null, c => c = 'n'
  | .boolean true, c => c = 't'
  | .boolean false, c => c = 'f'
  | .numeral _, c => c = '-' ∨ c.isDigit = true
  | .text _, c => c = '"'
  | .list _, c => c = '['
  | .object _, c => c = '\x7b'

/-- The text is laid out from the tree, with any blanks between and around its tokens. -/
def Tree.Writes (t : Tree) (text : List Char) : Prop :=
  ∃ body gap, Laid t.tokens body ∧ Blank gap ∧ text = body ++ gap

/-! ## Blanks -/

private theorem Blank.append {gap gap' : List Char} (blank : Blank gap) (blank' : Blank gap') :
    Blank (gap ++ gap') := by
  intro c mem
  obtain mem | mem := List.mem_append.mp mem
  · exact blank c mem
  · exact blank' c mem

theorem Blank.ends {gap s : List Char} (blank : Blank gap) (ends : Ends s) : Ends (gap ++ s) := by
  cases gap with
  | nil => exact ends
  | cons c gap =>
    have white := blank c List.mem_cons_self
    simp only [isJsonBlank, Bool.or_eq_true, beq_iff_eq] at white
    obtain ((rfl | rfl) | rfl) | rfl := white
    all_goals exact ⟨rfl, by decide, by decide, by decide⟩

theorem exists_blank (s : List Char) : ∃ gap, Blank gap ∧ s = gap ++ skipBlanks s :=
  ⟨s.takeWhile isJsonBlank, fun _ mem => List.all_eq_true.mp List.all_takeWhile _ mem,
    List.takeWhile_append_dropWhile.symm⟩

/-- A document ends where there are only blanks left. -/
theorem finish_eq_ok {s : List Char} : finish s = .ok () ↔ Blank s := by
  have none : skipBlanks s = [] ↔ Blank s := List.dropWhile_eq_nil_iff
  rw [← none, finish]
  split
  next shown => simp [shown]
  next some => simpa using some

/-! ## Layouts -/

theorem Laid.append {a b : List (List Char)} {s s' : List Char} (laid : Laid a s)
    (laid' : Laid b s') : Laid (a ++ b) (s ++ s') := by
  induction laid with
  | nil => exact laid'
  | cons token blank _ ih =>
    rw [List.cons_append, List.append_assoc, List.append_assoc]
    exact .cons token blank ih

theorem Blank.laid {gap : List Char} (blank : Blank gap) (tokens : List (List Char)) :
    Laid tokens (tokens.flatMap fun token => gap ++ token) := by
  induction tokens with
  | nil => exact .nil
  | cons token tokens ih =>
    rw [List.flatMap_cons, List.append_assoc]
    exact .cons token blank ih

theorem laid_flatten (tokens : List (List Char)) : Laid tokens tokens.flatten := by
  simpa [List.flatMap_id'] using Blank.nil.laid tokens

/-- What is laid out from some tokens and others falls into what is laid out from each. -/
theorem Laid.split {a b : List (List Char)} {text : List Char} (laid : Laid (a ++ b) text) :
    ∃ s s', Laid a s ∧ Laid b s' ∧ text = s ++ s' := by
  induction a generalizing text with
  | nil => exact ⟨[], text, .nil, laid, rfl⟩
  | cons token a ih =>
    cases laid with
    | @cons _ gap _ _ blank more =>
      obtain ⟨s, s', first, second, rfl⟩ := ih more
      refine ⟨gap ++ (token ++ s), s', .cons token blank first, second, ?_⟩
      simp only [List.append_assoc]

/-- Blanks may stand before the first token. -/
theorem Laid.blank_append {gap s : List Char} {tokens : List (List Char)} (blank : Blank gap)
    (some : tokens ≠ []) (laid : Laid tokens s) : Laid tokens (gap ++ s) := by
  cases laid with
  | nil => exact absurd rfl some
  | cons token blank' more =>
    rw [← List.append_assoc]
    exact .cons token (blank.append blank') more

/-- A token that begins with no blank is what stands behind the blanks. -/
theorem Laid.skip {c : Char} {token text : List Char} {tokens : List (List Char)}
    (laid : Laid ((c :: token) :: tokens) text) (solid : isJsonBlank c = false) :
    ∃ s, Laid tokens s ∧ (c :: (token ++ s)).length ≤ text.length ∧
      ∀ rest, skipBlanks (text ++ rest) = c :: (token ++ (s ++ rest)) := by
  cases laid with
  | @cons _ gap s _ blank more =>
    refine ⟨s, more, by simp, fun rest => ?_⟩
    rw [List.append_assoc, List.append_assoc, List.cons_append, blank.skip solid]

theorem Laid.skip_token {c : Char} {token text : List Char} (laid : Laid [c :: token] text)
    (solid : isJsonBlank c = false) (rest : List Char) :
    skipBlanks (text ++ rest) = c :: (token ++ rest) := by
  obtain ⟨s, ⟨⟩, _, skipped⟩ := laid.skip solid
  exact skipped rest

theorem Laid.skip_text {raw text : List Char} (laid : Laid [quoted raw] text) (rest : List Char) :
    skipBlanks (text ++ rest) = '"' :: (raw ++ '"' :: rest) := by
  rw [laid.skip_token rfl, List.append_assoc]
  rfl

/-- A tree begins with no blank, no comma and no closing bracket. -/
theorem Tree.Begins.inner {t : Tree} {c : Char} (begins : t.Begins c) :
    isJsonBlank c = false ∧ c ≠ ',' ∧ c ≠ ']' := by
  cases t with
  | numeral => exact ⟨solid_of_number begins, by simp [ne_of_number begins]⟩
  | boolean b => cases b <;> (cases begins; decide)
  | _ => cases begins; decide

theorem Tree.Formed.exists_token {t : Tree} (formed : t.Formed) :
    ∃ c token tokens, t.tokens = (c :: token) :: tokens ∧ t.Begins c := by
  cases formed with
  | numeral numeral =>
    obtain ⟨c, tail, rfl, first⟩ := numeral.exists_cons
    exact ⟨c, tail, _, rfl, first⟩
  | boolean b => cases b <;> exact ⟨_, _, _, rfl, rfl⟩
  | _ => exact ⟨_, _, _, rfl, rfl⟩

/-- A tree may be taken up behind the blanks before it. -/
theorem Tree.Formed.opens {t : Tree} (formed : t.Formed) {text : List Char}
    (laid : Laid t.tokens text) :
    ∃ c s, t.Begins c ∧ Laid t.tokens (c :: s) ∧ (c :: s).length ≤ text.length ∧
      ∀ rest, skipBlanks (text ++ rest) = c :: (s ++ rest) := by
  obtain ⟨c, token, tokens, shown, begins⟩ := formed.exists_token
  rw [shown] at laid ⊢
  obtain ⟨s, more, shorter, skipped⟩ := laid.skip begins.inner.1
  refine ⟨c, token ++ s, begins, .cons _ Blank.nil more, shorter, fun rest => ?_⟩
  rw [skipped, List.append_assoc]

end Json

end Intake
