import Mathlib.Data.List.Nodup
import Intake.Json.Record
import Intake.Proofs.Json.Value

/-!
# Records, written and read

Scalars, maps and records are read back from their written forms. A record that is written with all
of its fields is what their values make of any record that reading starts from.
-/

namespace Intake

namespace Json

/-! ## Scalars -/

theorem reads_boolean (b : Bool) : Reads readBoolean (printBoolean b) b := by
  refine Reads.of_opens (fun s => ?_) (opens_printBoolean b) fun rest _ => ?_
  · simp only [readBoolean, mismatch, skipBlanks_skipBlanks]
  · cases b <;> rfl

theorem reads_text (s : String) : Reads readText (printText s.toList) s := by
  refine Reads.of_opens (fun s => ?_) (opens_printText s.toList) fun rest _ => ?_
  · simp only [readText, mismatch, skipBlanks_skipBlanks]
  · rw [printText_append]
    change (readChars _).map _ = _
    rw [readChars_flatMap_printChar]
    exact congrArg (fun s => Except.ok (s, rest)) String.ofList_toList

theorem decimal_eq_printInteger (n : Nat) : decimal n = printInteger n := by
  rw [printInteger, if_neg (by omega), Int.natAbs_natCast]

/-- A whole number is read back as one of a type that has it. -/
theorem reads_natural (expected : String) {n bound : Nat} (within : n < bound)
    (size : bound ≤ 2 ^ 64) : Reads (readNatural expected bound) (decimal n) n := by
  rw [decimal_eq_printInteger]
  refine Reads.of_opens (fun s => ?_) (opens_printInteger n) fun rest ends => ?_
  · simp only [readNatural, mismatch, skipBlanks_skipBlanks]
  · have read := readNumber_printInteger (n := n) (by omega) (by omega) ends
    obtain ⟨c, tail, written, first⟩ := printInteger_eq_cons n
    rw [written, List.cons_append] at read ⊢
    have inRange : (0 : Int) ≤ n ∧ (n : Int) < bound := by omega
    simp [readNatural, skipBlanks_cons (solid_of_number first), first, read, within]

/-! ## Maps -/

/-- A written map is read back with its entries in the order they are written. -/
theorem reads_map {α : Type} {gap : List Char} (blank : Blank gap) {item : Nat → Reader α}
    {depth : Nat} {print : α → List Char} {entries : List (String × α)}
    (reads : ∀ e ∈ entries, Reads (item depth) (print e.2) e.2) :
    Reads (readMap item (depth + 1))
      (spacedObject gap (entries.map fun e => spacedField gap e.1 (print e.2))) entries := by
  refine Reads.of_opens (fun s => ?_) (opens_spacedObject gap _) fun rest _ => ?_
  · simp only [readMap, mismatch, skipBlanks_skipBlanks]
  · rw [spacedObject_append]
    exact readEntries_spaced blank rest (length_le_closed ..) true reads

/-! ## Records -/

variable {σ : Type}

/-- A field of a record as it is written: the text of its value, and what reading that puts in. -/
structure Filled (σ : Type) where
  field : Field σ
  text : List Char
  set : σ → σ

/-- A field that is written is read back at the given depth. -/
def Filled.Reads (depth : Nat) (filled : Filled σ) : Prop :=
  Json.Reads (filled.field.read depth) filled.text filled.set

def Filled.written (gap : List Char) (filled : Filled σ) : List Char :=
  spacedField gap filled.field.name filled.text

/-- A record after all of the written fields are put in. -/
def fill (filled : List (Filled σ)) (record : σ) : σ :=
  filled.foldl (fun record filled => filled.set record) record

/-- Among items with keys of their own, an item is found by its key. -/
theorem find?_key {α : Type} {key : α → String} {items : List α}
    (distinct : (items.map key).Nodup) {item : α} (mem : item ∈ items) :
    items.find? (fun other => key other == key item) = some item := by
  induction items with
  | nil => cases mem
  | cons other items ih =>
    rw [List.map_cons, List.nodup_cons] at distinct
    obtain rfl | mem := List.mem_cons.mp mem
    · exact List.find?_cons_of_pos (beq_self_eq_true _)
    · have differs : key other ≠ key item := fun same =>
        distinct.1 (same ▸ List.mem_map_of_mem mem)
      rw [List.find?_cons_of_neg (by simpa using differs)]
      exact ih distinct.2 mem

theorem field?_of_mem {fields : List (Field σ)} (distinct : (fields.map Field.name).Nodup)
    {field : Field σ} (mem : field ∈ fields) : field? fields field.name = some field :=
  find?_key distinct mem

/-- Fields that are known, written one after the other and each once, are all put in. -/
theorem readNamed_spaced {gap : List Char} (blank : Blank gap) {fields : List (Field σ)}
    {depth : Nat} (rest : List Char) {filled : List (Filled σ)} {n : Nat}
    (fuel : filled.length ≤ n) (first : Bool) {seen : List String} (record : σ)
    (known : ∀ f ∈ filled, field? fields f.field.name = some f.field)
    (distinct : (filled.map fun f => f.field.name).Nodup)
    (fresh : ∀ f ∈ filled, f.field.name ∉ seen) (reads : ∀ f ∈ filled, f.Reads depth) :
    readNamed fields depth (n + 1) first seen record
      (spaced gap first (filled.map (Filled.written gap)) ++ '\x7d' :: rest) =
      .ok (fill filled record, rest) := by
  induction filled generalizing n first seen record with
  | nil => rfl
  | cons f filled ih =>
    obtain ⟨n, rfl⟩ := Nat.exists_eq_add_of_lt fuel
    rw [List.map_cons, List.nodup_cons] at distinct
    -- A name that was read is refused later on, so the names still to come must not be among those.
    have unseen : ∀ g ∈ filled, g.field.name ∉ f.field.name :: seen := by
      intro g mem seen
      obtain same | seen := List.mem_cons.mp seen
      · exact distinct.1 (List.mem_map.mpr ⟨g, mem, same⟩)
      · exact fresh g (List.mem_cons_of_mem f mem) seen
    have more := ih (n := filled.length + n) (by omega) false (f.set record)
      (fun g mem => known g (List.mem_cons_of_mem f mem)) distinct.2 unseen
      fun g mem => reads g (List.mem_cons_of_mem f mem)
    have here := reads f List.mem_cons_self gap _ blank
      (ends_spaced gap (filled.map (Filled.written gap)) (ends_brace rest))
    have found := known f List.mem_cons_self
    have new := fresh f List.mem_cons_self
    rw [List.map_cons, spaced, Filled.written, spacedField, List.append_assoc, List.append_assoc,
      List.append_assoc, List.cons_append, List.append_assoc, readNamed]
    simp only [nextName_lead blank first, bind, Except.bind, String.ofList_toList, found, new,
      ↓reduceIte, skipColon_cons, here, more]
    rfl

/-- A record that is written with all of its fields is made of their values. -/
theorem reads_record {gap : List Char} (blank : Blank gap) {title : String}
    {fields : List (Field σ)} (distinct : (fields.map Field.name).Nodup) {default : σ} {depth : Nat}
    {filled : List (Filled σ)} (all : filled.map Filled.field = fields)
    (reads : ∀ f ∈ filled, f.Reads depth) :
    Reads (readRecord title fields default (depth + 1))
      (spacedObject gap (filled.map (Filled.written gap))) (fill filled default) := by
  subst all
  refine Reads.of_opens (fun s => ?_) (opens_spacedObject gap _) fun rest _ => ?_
  · simp only [readRecord, mismatch, skipBlanks_skipBlanks]
  · rw [spacedObject_append]
    refine readNamed_spaced blank rest (length_le_closed ..) true default
      (fun f mem => field?_of_mem distinct (List.mem_map_of_mem mem)) ?_
      (fun f _ seen => nomatch seen) reads
    simpa [Function.comp_def] using distinct

/-- A written record is read back when its fields are and make it up. -/
theorem reads_printRecord {title : String} {fields : List (Field σ)}
    (distinct : (fields.map Field.name).Nodup) {default record : σ} {depth : Nat}
    {filled : List (Filled σ)} (all : filled.map Filled.field = fields)
    (reads : ∀ f ∈ filled, f.text = f.field.print record ∧ f.Reads depth)
    (whole : fill filled default = record) :
    Reads (readRecord title fields default (depth + 1)) (printRecord fields record) record := by
  have written : printRecord fields record =
      spacedObject [] (filled.map (Filled.written [])) := by
    subst all
    rw [printRecord, printObject_eq_spacedObject, List.map_map]
    refine congrArg (spacedObject []) (List.map_congr_left fun f mem => ?_)
    rw [Function.comp_apply, ← (reads f mem).1]
    rfl
  have read : Reads (readRecord title fields default (depth + 1))
      (spacedObject [] (filled.map (Filled.written []))) (fill filled default) :=
    reads_record Blank.nil distinct all fun f mem => (reads f mem).2
  rwa [← written, whole] at read

end Json

end Intake
