import Mathlib.Data.List.Forall2
import Mathlib.Data.List.Nodup
import Mathlib.Data.List.Perm.Basic
import Intake.Proofs.Json.Members
import Intake.Proofs.Text.Order

/-!
# The last entry with a name

Entries that are written one after the other are kept by name, and of several with one name the last
one counts. What is looked up does not depend on anything else, and neither does the order in which
the entries are listed: it is that of the bytes of their names.
-/

namespace Intake

namespace Json

variable {α : Type} {entries table : List (String × α)} {name : String} {item : α}

/-- This is the last of the entries with its name. -/
def LastEntry (entries : List (String × α)) (name : String) (item : α) : Prop :=
  ∃ before after, entries = before ++ (name, item) :: after ∧ ∀ entry ∈ after, entry.1 ≠ name

theorem lookup_reverse_eq_some_iff :
    entries.reverse.lookup name = some item ↔ LastEntry entries name item := by
  rw [List.lookup_eq_some_iff]
  constructor
  · rintro ⟨after, before, same, other⟩
    refine ⟨before.reverse, after.reverse, ?_, ?_⟩
    · rw [← entries.reverse_reverse, same, List.reverse_append, List.reverse_cons,
        List.append_assoc, List.singleton_append]
    · intro entry member shared
      have differs := other entry (List.mem_reverse.mp member)
      rw [shared, bne_self_eq_false] at differs
      cases differs
  · rintro ⟨before, after, rfl, other⟩
    refine ⟨after.reverse, before.reverse, by simp, ?_⟩
    intro entry member
    exact bne_iff_ne.mpr (other entry (List.mem_reverse.mp member)).symm

/-- There is a last entry with a name if there is any. -/
theorem exists_lastEntry_iff :
    (∃ item, LastEntry entries name item) ↔ ∃ entry ∈ entries, entry.1 = name := by
  have found : (∃ item, LastEntry entries name item) ↔ (entries.reverse.lookup name).isSome := by
    rw [Option.isSome_iff_exists]
    exact exists_congr fun _ => lookup_reverse_eq_some_iff.symm
  rw [found, List.lookup_isSome_iff]
  simp only [List.mem_reverse, beq_iff_eq, @eq_comm String name]

/-! ## Entries that are kept by name -/

theorem lookup_cons_eq (key : String) (old : α) (entries : List (String × α)) (name : String) :
    ((key, old) :: entries).lookup name = if name = key then some old else entries.lookup name := by
  rw [List.lookup_cons]
  by_cases same : name = key
  · rw [if_pos same, beq_iff_eq.mpr same]
  · rw [if_neg same, beq_false_of_ne same]

private theorem lookup_putSorted (name other : String) (item : α) (entries : List (String × α)) :
    (putSorted name item entries).lookup other =
      if other = name then some item else entries.lookup other := by
  induction entries with
  | nil => rw [putSorted, lookup_cons_eq]
  | cons first entries ih =>
    obtain ⟨key, old⟩ := first
    rw [putSorted]
    by_cases before : name < key
    · rw [if_pos before, lookup_cons_eq]
    · rw [if_neg before, lookup_cons_eq]
      by_cases same : name = key
      · subst same
        rw [if_pos rfl, lookup_cons_eq]
        by_cases found : other = name <;> simp [found]
      · rw [if_neg same, lookup_cons_eq, ih]
        by_cases found : other = key
        · simp [found, Ne.symm same]
        · simp [found]

/-- By its name the last of the entries is found. -/
theorem lookup_sortedByName :
    (sortedByName entries).lookup name = some item ↔ LastEntry entries name item := by
  rw [← lookup_reverse_eq_some_iff]
  induction entries using List.reverseRecOn with
  | nil => rfl
  | append_singleton entries entry ih =>
    have last : sortedByName (entries ++ [entry]) =
        putSorted entry.1 entry.2 (sortedByName entries) := List.foldl_concat ..
    rw [last, lookup_putSorted, List.reverse_concat, lookup_cons_eq]
    by_cases same : name = entry.1
    · rw [if_pos same, if_pos same]
    · rw [if_neg same, if_neg same]
      exact ih

/-- In entries with names of their own, what is found by a name is what stands there. -/
theorem mem_iff_lookup (distinct : (entries.map Prod.fst).Nodup) :
    (name, item) ∈ entries ↔ entries.lookup name = some item := by
  induction entries with
  | nil => simp
  | cons first entries ih =>
    obtain ⟨key, old⟩ := first
    obtain ⟨fresh, others⟩ := List.nodup_cons.mp distinct
    rw [List.mem_cons, lookup_cons_eq, ih others]
    by_cases same : name = key
    · subst same
      have absent : entries.lookup name ≠ some item := by
        intro found
        have shared : (name, item).1 ∈ entries.map Prod.fst :=
          List.mem_map_of_mem ((ih others).mpr found)
        exact fresh shared
      simp [absent, eq_comm]
    · simp [same]

theorem Sorted.distinct (sorted : Sorted entries) : (entries.map Prod.fst).Nodup := by
  rw [List.Nodup, List.pairwise_map]
  exact sorted.imp String.ne_of_lt

/-- Sorted entries are in the order of the bytes of their names. -/
theorem Sorted.rising (sorted : Sorted entries) :
    entries.Pairwise fun a b => Bytes.ofText a.1 < Bytes.ofText b.1 :=
  sorted.imp Bytes.ofText_lt_of_lt

/-! ## Entries in any order -/

/-- A table of entries in any order, as a hash table has them: each name once, with the last of its
entries. -/
structure Tabulates (entries table : List (String × α)) : Prop where
  once : (table.map Prod.fst).Nodup
  last : ∀ name item, (name, item) ∈ table ↔ LastEntry entries name item

private theorem tabulates_sortedByName (entries : List (String × α)) :
    Tabulates entries (sortedByName entries) where
  once := (sorted_sortedByName entries).distinct
  last name item := by
    rw [mem_iff_lookup (sorted_sortedByName entries).distinct, lookup_sortedByName]

/-- The name of the first entry comes before that of the second, or is the same. -/
def byName (a b : String × α) : Bool := Bytes.ofText a.1 ≤ Bytes.ofText b.1

private theorem byName_iff {a b : String × α} : byName a b = true ↔ a.1 ≤ b.1 := by
  rw [byName, decide_eq_true_iff, ← String.not_lt, ← Bytes.ofText_lt_iff]
  exact List.not_lt.symm

/-- However a table is ordered, what a filter leaves of it is sorted to the same list. -/
theorem Tabulates.mergeSort_filter (tabulates : Tabulates entries table) (p : String × α → Bool) :
    (table.filter p).mergeSort byName = (sortedByName entries).filter p := by
  have sorted := sorted_sortedByName entries
  have tabulates' := tabulates_sortedByName entries
  have same (entry : String × α) :
      entry ∈ table.filter p ↔ entry ∈ (sortedByName entries).filter p := by
    rw [List.mem_filter, List.mem_filter, tabulates.last, tabulates'.last]
  have perm : (table.filter p).Perm ((sortedByName entries).filter p) :=
    (List.perm_ext_iff_of_nodup (tabulates.once.of_map.filter p)
      (tabulates'.once.of_map.filter p)).mpr same
  have total (a b : String × α) : (byName a b || byName b a) = true := by
    simpa only [Bool.or_eq_true, byName_iff] using String.le_total a.1 b.1
  have trans (a b c : String × α) (ab : byName a b = true) (bc : byName b c = true) :
      byName a c = true :=
    byName_iff.mpr (String.le_trans (byName_iff.mp ab) (byName_iff.mp bc))
  have kept : ((sortedByName entries).filter p).Pairwise fun a b => byName a b = true :=
    (sorted.filter p).imp fun less => byName_iff.mpr (le_of_lt less)
  refine ((List.mergeSort_perm _ _).trans perm).eq_of_pairwise ?_
    (List.pairwise_mergeSort trans total _) kept
  intro a b memA memB ab ba
  have name : a.1 = b.1 := String.le_antisymm (byName_iff.mp ab) (byName_iff.mp ba)
  have inTable := (List.mem_filter.mp ((List.mergeSort_perm _ _).mem_iff.mp memA)).1
  exact List.inj_on_of_nodup_map tabulates.once inTable
    (List.mem_filter.mp ((same b).mpr memB)).1 name

/-- Lists of the same entries, their names going up byte by byte, are one list. -/
theorem eq_of_rising {entries' : List (String × α)}
    (rising : entries.Pairwise fun a b => Bytes.ofText a.1 < Bytes.ofText b.1)
    (rising' : entries'.Pairwise fun a b => Bytes.ofText a.1 < Bytes.ofText b.1)
    (same : ∀ entry, entry ∈ entries ↔ entry ∈ entries') : entries = entries' := by
  have asymm {a b : String × α} (ab : Bytes.ofText a.1 < Bytes.ofText b.1) :
      ¬ Bytes.ofText b.1 < Bytes.ofText a.1 := List.lt_asymm ab
  have differ {a b : String × α} (ab : Bytes.ofText a.1 < Bytes.ofText b.1) : a ≠ b := by
    rintro rfl
    exact asymm ab ab
  have perm : entries.Perm entries' :=
    (List.perm_ext_iff_of_nodup (rising.imp differ) (rising'.imp differ)).mpr same
  exact perm.eq_of_pairwise (fun a b _ _ ab ba => absurd ba (asymm ab)) rising rising'

/-! ## Members and entries -/

section

variable {read : Reader α} {members : List (List Char × Tree)}

/-- The entry that a member of an object is read as. -/
def Entry (read : Reader α) (member : List Char × Tree) (entry : String × α) : Prop :=
  Spells member.1 entry.1.toList ∧ member.2.readBy read = some entry.2

private theorem entryBy_eq_some_iff {member : List Char × Tree} {entry : String × α}
    (shape : Shape member.1) : entryBy read member = some entry ↔ Entry read member entry := by
  obtain ⟨name, value⟩ := entry
  rw [Entry, ← shape.chars?_eq_some_iff, entryBy]
  cases chars? member.1 with
  | none => simp
  | some chars =>
    have named : String.ofList chars = name ↔ chars = name.toList := by
      constructor
      · rintro rfl
        exact String.toList_ofList.symm
      · rintro rfl
        exact String.ofList_toList
    cases member.2.readBy read <;> simp [named]

theorem mapM_entryBy_eq_some_iff (shapes : ∀ member ∈ members, Shape member.1) :
    members.mapM (entryBy read) = some entries ↔ List.Forall₂ (Entry read) members entries := by
  induction members generalizing entries with
  | nil => simp [eq_comm]
  | cons member members ih =>
    obtain ⟨shape, shapes⟩ := List.forall_mem_cons.mp shapes
    rw [List.mapM_cons, List.forall₂_cons_left_iff]
    simp only [Option.bind_eq_bind, Option.bind_eq_some_iff, entryBy_eq_some_iff shape, ih shapes,
      Option.pure_def, Option.some.injEq]
    constructor
    · rintro ⟨entry, here, more, rest, rfl⟩
      exact ⟨entry, more, here, rest, rfl⟩
    · rintro ⟨entry, more, here, rest, rfl⟩
      exact ⟨entry, here, more, rest, rfl⟩

/-- Members are read as the same entries each time. -/
theorem entries_unique {entries' : List (String × α)} (shapes : ∀ member ∈ members, Shape member.1)
    (here : List.Forall₂ (Entry read) members entries)
    (there : List.Forall₂ (Entry read) members entries') : entries = entries' := by
  rw [← mapM_entryBy_eq_some_iff shapes] at here there
  exact Option.some.inj (here.symm.trans there)

end

end Json

end Intake
