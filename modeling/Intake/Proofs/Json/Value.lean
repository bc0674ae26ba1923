import Mathlib.Data.List.Basic
import Intake.Proofs.Json.Sequence

/-!
# Values, written and read

A value without doubles is read back from its written form if it does not nest too deep. Its
integers keep their range and its objects their order; a double may come back as another one, so
there is none in what is proved here.
-/

namespace Intake

namespace Json

/-! ## Names in order -/

/-- The entries are sorted by name, each name once. -/
def Sorted {α : Type} (entries : List (String × α)) : Prop :=
  entries.Pairwise fun a b => a.1 < b.1

private theorem mem_of_mem_putSorted {α : Type} {name : String} {item : α}
    {entries : List (String × α)}
    {e : String × α} (mem : e ∈ putSorted name item entries) : e = (name, item) ∨ e ∈ entries := by
  induction entries with
  | nil => exact .inl (List.mem_singleton.mp mem)
  | cons other entries ih =>
    rw [putSorted] at mem
    split_ifs at mem with before same
    · exact List.mem_cons.mp mem
    · exact (List.mem_cons.mp mem).imp_right (List.mem_cons_of_mem other)
    · obtain rfl | mem := List.mem_cons.mp mem
      · exact .inr List.mem_cons_self
      · exact (ih mem).imp_right (List.mem_cons_of_mem other)

/-- Putting an entry in its place keeps the order. -/
theorem Sorted.putSorted {α : Type} (name : String) (item : α) {entries : List (String × α)}
    (sorted : Sorted entries) : Sorted (putSorted name item entries) := by
  induction entries with
  | nil => exact List.pairwise_singleton _ _
  | cons other entries ih =>
    obtain ⟨behind, rest⟩ := List.pairwise_cons.mp sorted
    rw [Json.putSorted]
    split_ifs with before same
    · refine List.pairwise_cons.mpr ⟨fun e mem => ?_, sorted⟩
      obtain rfl | mem := List.mem_cons.mp mem
      · exact before
      · exact String.lt_trans before (behind e mem)
    · subst same
      exact List.pairwise_cons.mpr ⟨behind, rest⟩
    · refine List.pairwise_cons.mpr ⟨fun e mem => ?_, ih rest⟩
      obtain rfl | mem := mem_of_mem_putSorted mem
      · exact Std.lt_of_le_of_ne (String.not_lt.mp before) (Ne.symm same)
      · exact behind e mem

/-- Entries that are put in one after the other are sorted. -/
theorem sorted_sortedByName {α : Type} (entries : List (String × α)) :
    Sorted (sortedByName entries) :=
  List.foldlRecOn entries _ List.Pairwise.nil fun _ sorted entry _ =>
    sorted.putSorted entry.1 entry.2

/-- An entry whose name comes after all others is put at the end. -/
private theorem putSorted_last {α : Type} (name : String) (item : α) {sorted : List (String × α)}
    (last : ∀ e ∈ sorted, e.1 < name) :
    putSorted name item sorted = sorted ++ [(name, item)] := by
  induction sorted with
  | nil => rfl
  | cons e sorted ih =>
    have before : e.1 < name := last e List.mem_cons_self
    rw [putSorted, if_neg (String.lt_asymm before), if_neg (String.ne_of_lt before).symm,
      ih fun e mem => last e (List.mem_cons_of_mem _ mem)]
    rfl

private theorem foldl_putSorted {α : Type} {sorted entries : List (String × α)}
    (inOrder : Sorted (sorted ++ entries)) :
    entries.foldl (fun sorted entry => putSorted entry.1 entry.2 sorted) sorted =
      sorted ++ entries := by
  induction entries generalizing sorted with
  | nil => exact (List.append_nil sorted).symm
  | cons e entries ih =>
    have last : ∀ a ∈ sorted, a.1 < e.1 := fun a mem =>
      (List.pairwise_append.mp inOrder).2.2 a mem e List.mem_cons_self
    rw [List.foldl_cons, putSorted_last e.1 e.2 last, ih (by simpa using inOrder)]
    simp

/-- Entries that are in order stay as they are. -/
theorem Sorted.sortedByName {α : Type} {entries : List (String × α)} (sorted : Sorted entries) :
    sortedByName entries = entries :=
  foldl_putSorted (List.nil_append entries ▸ sorted)

/-! ## Values without doubles -/

/-- Without doubles, the integers within the range of 64 bits, the objects sorted by name, and at
most `depth` lists and objects nested. -/
inductive Value.Plain : Nat → Value → Prop
  | null {depth : Nat} : Plain depth .null
  | boolean {depth : Nat} (b : Bool) : Plain depth (.boolean b)
  | integer {depth : Nat} {n : Int} (low : -(2 ^ 63) ≤ n) (high : n < 2 ^ 64) :
      Plain depth (.number (.integer n))
  | text {depth : Nat} (s : String) : Plain depth (.text s)
  | list {depth : Nat} {items : List Value} (plain : ∀ item ∈ items, Plain depth item) :
      Plain (depth + 1) (.list items)
  | object {depth : Nat} {fields : List (String × Value)} (sorted : Sorted fields)
      (plain : ∀ field ∈ fields, Plain depth field.2) : Plain (depth + 1) (.object fields)

private theorem Value.printItems_eq_map (items : List Value) :
    Value.printItems items = items.map Value.print := by
  induction items with
  | nil => rfl
  | cons item items ih => rw [Value.printItems, ih, List.map_cons]

private theorem Value.printFields_eq_map (fields : List (String × Value)) :
    Value.printFields fields = fields.map fun field => spacedField [] field.1 field.2.print := by
  induction fields with
  | nil => rfl
  | cons field fields ih => rw [Value.printFields, ih, List.map_cons]; rfl

theorem Value.print_object (fields : List (String × Value)) :
    (Value.object fields).print =
      spacedObject [] (fields.map fun field => spacedField [] field.1 field.2.print) := by
  rw [Value.print, printObject_eq_spacedObject, Value.printFields_eq_map]

/-- A number is written with its sign or a digit in front. -/
theorem printInteger_eq_cons (n : Int) :
    ∃ c tail, printInteger n = c :: tail ∧ (c = '-' ∨ c.isDigit = true) := by
  rw [printInteger]
  split_ifs
  · exact ⟨'-', _, rfl, .inl rfl⟩
  · obtain ⟨c, tail, written, digit⟩ := decimal_eq_digit_cons n.natAbs
    exact ⟨c, tail, written, .inr digit⟩

theorem ne_of_number {c : Char} (first : c = '-' ∨ c.isDigit = true) {d : Char} (sign : d ≠ '-')
    (digit : d.isDigit = false) : c ≠ d := by
  rintro rfl
  simp_all

theorem solid_of_number {c : Char} (first : c = '-' ∨ c.isDigit = true) :
    isJsonBlank c = false := by
  simp [isJsonBlank, ne_of_number first]

theorem opens_printInteger (n : Int) : Opens (printInteger n) := by
  obtain ⟨c, tail, written, first⟩ := printInteger_eq_cons n
  exact ⟨c, tail, written, solid_of_number first, ne_of_number first (by decide) rfl⟩

theorem opens_printText (s : List Char) : Opens (printText s) := ⟨_, _, rfl, rfl, by decide⟩

theorem opens_printBoolean (b : Bool) : Opens (printBoolean b) := by
  cases b <;> exact ⟨_, _, rfl, rfl, by decide⟩

/-- The written form of a value begins like an item of a list. -/
private theorem Value.Plain.opens {depth : Nat} {v : Value} (plain : v.Plain depth) :
    Opens v.print := by
  cases plain with
  | null => exact ⟨_, _, rfl, rfl, by decide⟩
  | boolean b => exact opens_printBoolean b
  | integer => exact opens_printInteger _
  | text s => exact opens_printText s.toList
  | list => exact ⟨_, _, rfl, rfl, by decide⟩
  | object => exact ⟨_, _, rfl, rfl, by decide⟩

/-! ## Reading values -/

section

variable (list object : Reader Value)

private theorem readValueWith_skipBlanks (s : List Char) :
    readValueWith list object s = readValueWith list object (skipBlanks s) := by
  rw [readValueWith, readValueWith, skipBlanks_skipBlanks]

private theorem readValueWith_boolean (b : Bool) (rest : List Char) :
    readValueWith list object (printBoolean b ++ rest) = .ok (.boolean b, rest) := by
  cases b <;> rfl

private theorem readValueWith_text (s : String) (rest : List Char) :
    readValueWith list object (printText s.toList ++ rest) = .ok (.text s, rest) := by
  rw [printText_append]
  change (readChars _).map _ = _
  rw [readChars_flatMap_printChar]
  exact congrArg (fun s => Except.ok (Value.text s, rest)) String.ofList_toList

private theorem readValueWith_integer {n : Int} (low : -(2 ^ 63) ≤ n) (high : n < 2 ^ 64)
    {rest : List Char} (ends : Ends rest) :
    readValueWith list object (printInteger n ++ rest) = .ok (.number (.integer n), rest) := by
  have read := readNumber_printInteger low high ends
  obtain ⟨c, tail, written, first⟩ := printInteger_eq_cons n
  rw [written, List.cons_append] at read ⊢
  simp [readValueWith, skipBlanks_cons (solid_of_number first), ne_of_number first, first, read,
    Except.map]

end

private theorem readValue_skipBlanks (depth : Nat) (s : List Char) :
    readValue depth s = readValue depth (skipBlanks s) := by
  cases depth <;> exact readValueWith_skipBlanks _ _ s

private theorem readValue_list {depth : Nat} {items : List Value}
    (reads : ∀ item ∈ items, Opens item.print ∧ Reads (readValue depth) item.print item)
    (rest : List Char) :
    readValue (depth + 1) ((Value.list items).print ++ rest) = .ok (.list items, rest) := by
  have layout : (Value.list items).print ++ rest =
      '[' :: (spaced [] true (items.map Value.print) ++ ']' :: rest) := by
    simp [Value.print, printList, commas_eq_spaced, Value.printItems_eq_map]
  rw [layout]
  change (readItems (readValue depth) _ true _).map _ = _
  rw [readItems_spaced Blank.nil rest (length_le_closed ..) true reads]
  rfl

private theorem readValue_object {depth : Nat} {fields : List (String × Value)}
    (sorted : Sorted fields)
    (reads : ∀ field ∈ fields, Reads (readValue depth) field.2.print field.2) (rest : List Char) :
    readValue (depth + 1) ((Value.object fields).print ++ rest) = .ok (.object fields, rest) := by
  rw [Value.print_object, spacedObject_append]
  change (readEntries (readValue depth) _ true _).map _ = _
  rw [readEntries_spaced Blank.nil rest (length_le_closed ..) true reads]
  exact congrArg (fun fields => Except.ok (Value.object fields, rest)) sorted.sortedByName

/-- A value without doubles is read back if lists and objects may nest as deep as in it. -/
theorem Value.Plain.reads {depth : Nat} {v : Value} (plain : v.Plain depth) :
    Reads (readValue depth) v.print v := by
  have opens := plain.opens
  -- By induction on what makes the value plain: each level of nesting takes one from the depth.
  induction plain with
  | @null depth =>
    refine Reads.of_opens (readValue_skipBlanks depth) opens fun rest _ => ?_
    cases depth <;> rfl
  | @boolean depth b =>
    refine Reads.of_opens (readValue_skipBlanks depth) opens fun rest _ => ?_
    cases depth <;> exact readValueWith_boolean _ _ b rest
  | @integer depth n low high =>
    refine Reads.of_opens (readValue_skipBlanks depth) opens fun rest ends => ?_
    cases depth <;> exact readValueWith_integer _ _ low high ends
  | @text depth s =>
    refine Reads.of_opens (readValue_skipBlanks depth) opens fun rest _ => ?_
    cases depth <;> exact readValueWith_text _ _ s rest
  | list plain ih =>
    refine Reads.of_opens (readValue_skipBlanks _) opens fun rest _ => readValue_list ?_ rest
    exact fun item mem => ⟨(plain item mem).opens, ih item mem (plain item mem).opens⟩
  | object sorted plain ih =>
    refine Reads.of_opens (readValue_skipBlanks _) opens fun rest _ =>
      readValue_object sorted ?_ rest
    exact fun field mem => ih field mem (plain field mem).opens

end Json

end Intake
