import Mathlib.Data.List.DropRight
import Intake.Json.Printer
import Intake.Json.Reader
import Intake.Proofs.Json.Numeral
import Intake.Proofs.Json.Text

/-!
# Lists and objects, written and read

A reader reads a written text when it takes just that text, blanks before it included, and leaves
what follows. A list or an object of such texts is read as its items in their order, with or
without blanks behind the commas and colons.
-/

namespace Intake

namespace Json

variable {α : Type}

/-! ## Blanks -/

/-- Nothing but blanks. -/
def Blank (gap : List Char) : Prop := ∀ c ∈ gap, isJsonBlank c = true

theorem Blank.nil : Blank [] := fun _ mem => nomatch mem

theorem skipBlanks_cons {c : Char} (solid : isJsonBlank c = false) (s : List Char) :
    skipBlanks (c :: s) = c :: s := by
  simp [skipBlanks, solid]

theorem skipBlanks_skipBlanks (s : List Char) : skipBlanks (skipBlanks s) = skipBlanks s :=
  List.dropWhile_idempotent isJsonBlank s

theorem Blank.skip {gap : List Char} (blank : Blank gap) {c : Char} (solid : isJsonBlank c = false)
    (s : List Char) : skipBlanks (gap ++ c :: s) = c :: s := by
  rw [skipBlanks, List.dropWhile_append_of_pos blank]
  exact skipBlanks_cons solid s

/-! ## Reading a written text -/

/-- The reader takes the text, and blanks before it, for `a` and leaves what follows, so long as
that does not go on with a numeral. -/
def Reads (read : Reader α) (text : List Char) (a : α) : Prop :=
  ∀ gap rest, Blank gap → Ends rest → read (gap ++ (text ++ rest)) = .ok (a, rest)

/-- Begins like an item of a list: neither with a blank nor with the closing bracket. -/
def Opens (text : List Char) : Prop :=
  ∃ c tail, text = c :: tail ∧ isJsonBlank c = false ∧ c ≠ ']'

/-- A reader that passes over blanks needs to read the text only from its first character on. -/
theorem Reads.of_opens {read : Reader α} (skips : ∀ s, read s = read (skipBlanks s))
    {text : List Char} (opens : Opens text) {a : α}
    (reads : ∀ rest, Ends rest → read (text ++ rest) = .ok (a, rest)) : Reads read text a := by
  intro gap rest blank ends
  obtain ⟨c, tail, rfl, solid, _⟩ := opens
  rw [skips, List.cons_append, blank.skip solid]
  exact reads rest ends

private theorem Reads.apply {read : Reader α} {text : List Char} {a : α} (reads : Reads read text a)
    {rest : List Char} (ends : Ends rest) : read (text ++ rest) = .ok (a, rest) :=
  reads [] rest Blank.nil ends

theorem Reads.whole {read : Reader α} {text : List Char} {a : α} (reads : Reads read text a) :
    read text = .ok (a, []) := by
  simpa using reads [] [] Blank.nil trivial

theorem Reads.map {β : Type} {read : Reader α} {text : List Char} {a : α}
    (reads : Reads read text a) (f : α → β) :
    Reads (fun s => (read s).map fun (a, rest) => (f a, rest)) text (f a) := by
  intro gap rest blank ends
  dsimp only
  rw [reads gap rest blank ends]
  rfl

/-! ## Separators -/

/-- What stands before a part: a comma and a gap, unless it is the first. -/
def lead (gap : List Char) (first : Bool) : List Char := if first then [] else ',' :: gap

/-- The parts with commas and gaps between them, and before them if they are not the first. -/
def spaced (gap : List Char) : Bool → List (List Char) → List Char
  | _, [] => []
  | first, part :: parts => lead gap first ++ (part ++ spaced gap false parts)

/-- A field of an object with a gap behind its colon. -/
def spacedField (gap : List Char) (name : String) (value : List Char) : List Char :=
  printText name.toList ++ ':' :: (gap ++ value)

/-- An object with a gap behind each of its commas. -/
def spacedObject (gap : List Char) (parts : List (List Char)) : List Char :=
  '\x7b' :: (spaced gap true parts ++ ['\x7d'])

theorem commas_eq_spaced (parts : List (List Char)) : commas parts = spaced [] true parts := by
  induction parts with
  | nil => rfl
  | cons part parts ih =>
    cases parts with
    | nil => simp [commas, spaced, lead]
    | cons next parts =>
      rw [commas, ih]
      · simp [spaced, lead]
      · exact List.cons_ne_nil next parts

theorem printObject_eq_spacedObject (parts : List (List Char)) :
    printObject parts = spacedObject [] parts := by
  simp [printObject, spacedObject, commas_eq_spaced]

theorem opens_spacedObject (gap : List Char) (parts : List (List Char)) :
    Opens (spacedObject gap parts) := ⟨_, _, rfl, rfl, by decide⟩

theorem spacedObject_append (gap : List Char) (parts : List (List Char)) (rest : List Char) :
    spacedObject gap parts ++ rest = '\x7b' :: (spaced gap true parts ++ '\x7d' :: rest) := by
  simp [spacedObject]

private theorem length_le_spaced (gap : List Char) (first : Bool) (parts : List (List Char)) :
    parts.length ≤ (spaced gap first parts).length + first.toNat := by
  induction parts generalizing first with
  | nil => exact Nat.zero_le _
  | cons part parts ih =>
    have fewer := ih false
    cases first <;> simp [spaced, lead] at fewer ⊢ <;> omega

/-- There are no more items than characters up to the closing one, each comma being one. -/
theorem length_le_closed (gap : List Char) (print : α → List Char) (items : List α) (c : Char)
    (rest : List Char) :
    items.length ≤ (spaced gap true (items.map print) ++ c :: rest).length := by
  have fewer := length_le_spaced gap true (items.map print)
  simp only [List.length_map, Bool.toNat_true] at fewer
  simp only [List.length_append, List.length_cons]
  omega

theorem ends_spaced (gap : List Char) (parts : List (List Char)) {s : List Char} (ends : Ends s) :
    Ends (spaced gap false parts ++ s) := by
  cases parts with
  | nil => exact ends
  | cons part parts => exact ⟨rfl, by decide, by decide, by decide⟩

private theorem ends_bracket (s : List Char) :
    Ends (']' :: s) := ⟨rfl, by decide, by decide, by decide⟩

theorem ends_brace (s : List Char) : Ends ('\x7d' :: s) := ⟨rfl, by decide, by decide, by decide⟩

/-! ## Lists -/

private theorem nextItem_lead {gap : List Char} (blank : Blank gap) (first : Bool)
    {text : List Char} (opens : Opens text) (s : List Char) :
    nextItem first (lead gap first ++ (text ++ s)) = .ok (some (text ++ s)) := by
  obtain ⟨c, tail, rfl, solid, bracket⟩ := opens
  have comma : isJsonBlank ',' = false := rfl
  cases first
  · simp [lead, nextItem, skipBlanks_cons comma, blank.skip solid, bracket]
  · simp [lead, nextItem, skipBlanks_cons solid]

/-- The items of a written list are read in their order, up to its closing bracket. -/
theorem readItems_spaced {gap : List Char} (blank : Blank gap) {item : Reader α}
    {print : α → List Char} (rest : List Char) {items : List α} {n : Nat} (fuel : items.length ≤ n)
    (first : Bool) (reads : ∀ x ∈ items, Opens (print x) ∧ Reads item (print x) x) :
    readItems item (n + 1) first (spaced gap first (items.map print) ++ ']' :: rest) =
      .ok (items, rest) := by
  induction items generalizing n first with
  | nil => rfl
  | cons x items ih =>
    -- The separator belongs to the item behind it, so that the first item is no case of its own.
    obtain ⟨n, rfl⟩ := Nat.exists_eq_add_of_lt fuel
    obtain ⟨opens, read⟩ := reads x List.mem_cons_self
    have more := ih (n := items.length + n) (by omega) false
      fun y mem => reads y (List.mem_cons_of_mem x mem)
    have here := read.apply (ends_spaced gap (items.map print) (ends_bracket rest))
    rw [List.map_cons, spaced, List.append_assoc, List.append_assoc, readItems]
    simp only [nextItem_lead blank first opens, bind, Except.bind, here, more]
    rfl

/-! ## Objects -/

theorem nextName_lead {gap : List Char} (blank : Blank gap) (first : Bool) (name s : List Char) :
    nextName first (lead gap first ++ (printText name ++ s)) = .ok (some (name, s)) := by
  have comma : isJsonBlank ',' = false := rfl
  have quote : isJsonBlank '"' = false := rfl
  rw [printText_append]
  cases first
  · simp [lead, nextName, skipBlanks_cons comma, blank.skip quote, readChars_flatMap_printChar,
      Except.map]
  · simp [lead, nextName, skipBlanks_cons quote, readChars_flatMap_printChar, Except.map]

theorem skipColon_cons (s : List Char) : skipColon (':' :: s) = .ok s := rfl

/-- The entries of a written object are read in their order, up to its closing brace. -/
theorem readEntries_spaced {gap : List Char} (blank : Blank gap) {item : Reader α}
    {print : α → List Char} (rest : List Char) {entries : List (String × α)} {n : Nat}
    (fuel : entries.length ≤ n) (first : Bool)
    (reads : ∀ e ∈ entries, Reads item (print e.2) e.2) :
    readEntries item (n + 1) first
      (spaced gap first (entries.map fun e => spacedField gap e.1 (print e.2)) ++ '\x7d' :: rest) =
      .ok (entries, rest) := by
  induction entries generalizing n first with
  | nil => rfl
  | cons e entries ih =>
    obtain ⟨n, rfl⟩ := Nat.exists_eq_add_of_lt fuel
    have more := ih (n := entries.length + n) (by omega) false
      fun y mem => reads y (List.mem_cons_of_mem e mem)
    have here := reads e List.mem_cons_self gap _ blank (ends_spaced gap
      (entries.map fun e => spacedField gap e.1 (print e.2)) (ends_brace rest))
    rw [List.map_cons, spaced, spacedField, List.append_assoc, List.append_assoc, List.append_assoc,
      List.cons_append, List.append_assoc, readEntries]
    simp only [nextName_lead blank first, bind, Except.bind, skipColon_cons, here,
      String.ofList_toList, more]
    rfl

end Json

end Intake
