import Mathlib.Data.List.Forall2
import Mathlib.Data.List.Nodup
import Mathlib.Data.List.Perm.Basic
import Intake.Proofs.Json.Members
import Intake.Proofs.Json.Record

/-!
# Other ways of writing a record

The members of an object set the fields of a record one by one, each field at most once. Where the
fields stand apart, the order does not matter: so neither does it matter in which order a record is
written, which unknown members it has, whether its defaults are written, and whether it is written
as a list of all its fields.
-/

namespace Intake

namespace Json

variable {σ : Type} {fields : List (Field σ)} {depth : Nat}

/-! ## What members set -/

/-- What a member sets: none if it is refused, and nothing if its name is that of no field. -/
def putBy (fields : List (Field σ)) (depth : Nat) (member : List Char × Tree) :
    Option (Option (String × (σ → σ))) := do
  let name := String.ofList (← chars? member.1)
  match field? fields name with
  | none => some none
  | some field => (member.2.readBy (field.read depth)).map fun set => some (name, set)

/-- What is set by the members of an object, in their order. -/
def puts (fields : List (Field σ)) (depth : Nat) (members : List (List Char × Tree)) :
    List (String × (σ → σ)) :=
  members.filterMap fun member => (putBy fields depth member).join

/-- All members are taken, and no field is set twice. -/
structure Settles (fields : List (Field σ)) (depth : Nat) (members : List (List Char × Tree)) :
    Prop where
  taken : ∀ member ∈ members, (putBy fields depth member).isSome
  once : ((puts fields depth members).map Prod.fst).Nodup

/-- Set one field after the other. -/
def setAll (record : σ) (puts : List (String × (σ → σ))) : σ :=
  puts.foldl (fun record put => put.2 record) record

private theorem namedBy_cons (seen : List String) (record : σ) (member : List Char × Tree)
    (members : List (List Char × Tree)) :
    namedBy fields depth seen record (member :: members) =
      (putBy fields depth member).bind fun
        | none => namedBy fields depth seen record members
        | some (name, set) =>
          if name ∈ seen then none
          else namedBy fields depth (name :: seen) (set record) members := by
  obtain ⟨raw, value⟩ := member
  rw [namedBy, putBy]
  cases chars? raw with
  | none => rfl
  | some name =>
    simp only [Option.bind_eq_bind, Option.bind_some]
    cases field? fields (String.ofList name) with
    | none => rfl
    | some field =>
      dsimp only
      cases value.readBy (field.read depth) with
      | none => simp
      | some set => simp

private theorem puts_cons (member : List Char × Tree) (members : List (List Char × Tree)) :
    puts fields depth (member :: members) =
      (putBy fields depth member).join.toList ++ puts fields depth members := by
  rw [puts, List.filterMap_cons]
  cases (putBy fields depth member).join <;> rfl

private theorem settles_cons {member : List Char × Tree} {members : List (List Char × Tree)} :
    Settles fields depth (member :: members) ↔
      ∃ put, putBy fields depth member = some put ∧ Settles fields depth members ∧
        ∀ p ∈ put, ∀ q ∈ puts fields depth members, q.1 ≠ p.1 := by
  constructor
  · rintro ⟨taken, once⟩
    obtain ⟨here, more⟩ := List.forall_mem_cons.mp taken
    obtain ⟨put, given⟩ := Option.isSome_iff_exists.mp here
    rw [puts_cons, given] at once
    cases put with
    | none => exact ⟨none, given, ⟨more, once⟩, fun p mem => by cases mem⟩
    | some p =>
      obtain ⟨fresh, once⟩ := List.nodup_cons.mp once
      refine ⟨some p, given, ⟨more, once⟩, fun p' mem q listed same => fresh ?_⟩
      obtain rfl := Option.some.inj mem
      exact same ▸ List.mem_map_of_mem listed
  · rintro ⟨put, given, ⟨taken, once⟩, fresh⟩
    refine ⟨List.forall_mem_cons.mpr ⟨by simp [given], taken⟩, ?_⟩
    rw [puts_cons, given]
    cases put with
    | none => exact once
    | some p =>
      refine List.nodup_cons.mpr ⟨fun mem => ?_, once⟩
      obtain ⟨q, listed, same⟩ := List.mem_map.mp mem
      exact fresh p rfl q listed same

/-- The members of an object are taken if all of them are and no field is set that was set before;
the record is what they set. -/
private theorem namedBy_eq_some_iff {seen : List String} {record r : σ}
    {members : List (List Char × Tree)} :
    namedBy fields depth seen record members = some r ↔
      Settles fields depth members ∧ (∀ put ∈ puts fields depth members, put.1 ∉ seen) ∧
        setAll record (puts fields depth members) = r := by
  induction members generalizing seen record with
  | nil =>
    have none : Settles fields depth [] := ⟨fun _ mem => (by cases mem), List.nodup_nil⟩
    simp [namedBy, none, puts, setAll]
  | cons member members ih =>
    rw [namedBy_cons, settles_cons, puts_cons]
    cases putBy fields depth member with
    | none => simp
    | some put =>
      cases put with
      | none => simp [ih]
      | some p =>
        obtain ⟨name, set⟩ := p
        by_cases repeated : name ∈ seen
        · simp [repeated]
        · simp [repeated, ih, setAll, not_or, imp_and, forall_and, and_assoc]

/-- An object is taken for what its members make of the default. -/
theorem recordBy_object {default r : σ} {members : List (List Char × Tree)} :
    recordBy fields default (.object members) (depth + 1) = some r ↔
      Settles fields depth members ∧ setAll default (puts fields depth members) = r := by
  rw [recordBy, namedBy_eq_some_iff]
  simp

/-! ## The order does not matter -/

/-- The fields have names of their own, and of two of them it does not matter which is set first. -/
structure Apart (fields : List (Field σ)) (depth : Nat) : Prop where
  distinct : (fields.map Field.name).Nodup
  swap : ∀ a ∈ fields, ∀ b ∈ fields, a.name ≠ b.name → ∀ {s t : Tree} {f g : σ → σ},
    s.readBy (a.read depth) = some f → t.readBy (b.read depth) = some g →
      ∀ record, g (f record) = f (g record)

theorem eq_of_field? {name : String} {field : Field σ} (found : field? fields name = some field) :
    field ∈ fields ∧ field.name = name :=
  ⟨List.mem_of_find?_eq_some found, by simpa using List.find?_some found⟩

private theorem putBy_of_chars {raw chars : List Char} (written : chars? raw = some chars)
    (value : Tree) :
    putBy fields depth (raw, value) =
      match field? fields (String.ofList chars) with
      | none => some none
      | some field =>
        (value.readBy (field.read depth)).map fun set => some (String.ofList chars, set) := by
  simp only [putBy, written, Option.bind_eq_bind, Option.bind_some]

theorem putBy_eq_some_iff {raw : List Char} {value : Tree} {put : String × (σ → σ)} :
    putBy fields depth (raw, value) = some (some put) ↔
      chars? raw = some put.1.toList ∧ ∃ field, field? fields put.1 = some field ∧
        value.readBy (field.read depth) = some put.2 := by
  obtain ⟨name, set⟩ := put
  cases written : chars? raw with
  | none => simp [putBy, written]
  | some chars =>
    have spelled : chars = name.toList ↔ String.ofList chars = name := by
      constructor
      · rintro rfl
        exact String.ofList_toList
      · rintro rfl
        exact String.toList_ofList.symm
    rw [putBy_of_chars written, Option.some_inj, spelled]
    constructor
    · intro given
      cases found : field? fields (String.ofList chars) with
      | none => simp [found] at given
      | some field =>
        obtain ⟨read, rfl⟩ : value.readBy (field.read depth) = some set ∧
            String.ofList chars = name := by simpa [found] using given
        exact ⟨rfl, field, found, read⟩
    · rintro ⟨rfl, field, found, read⟩
      simp only [found, read, Option.map_some]

theorem mem_puts {put : String × (σ → σ)} {members : List (List Char × Tree)} :
    put ∈ puts fields depth members ↔
      ∃ member ∈ members, putBy fields depth member = some (some put) := by
  simp [puts, List.mem_filterMap, Option.join_eq_some_iff]

/-- What members set are changes of fields. -/
private theorem exists_field_of_mem_puts {put : String × (σ → σ)}
    {members : List (List Char × Tree)} (mem : put ∈ puts fields depth members) :
    ∃ field ∈ fields, field.name = put.1 ∧ ∃ value : Tree,
      value.readBy (field.read depth) = some put.2 := by
  obtain ⟨⟨raw, value⟩, _, given⟩ := mem_puts.mp mem
  obtain ⟨_, field, found, read⟩ := putBy_eq_some_iff.mp given
  obtain ⟨known, named⟩ := eq_of_field? found
  exact ⟨field, known, named, value, read⟩

theorem setAll_perm (apart : Apart fields depth) {members : List (List Char × Tree)}
    (settles : Settles fields depth members) {list : List (String × (σ → σ))}
    (perm : (puts fields depth members).Perm list) (record : σ) :
    setAll record (puts fields depth members) = setAll record list := by
  refine perm.foldl_eq' (fun p memP q memQ record => ?_) record
  by_cases same : p.1 = q.1
  · rw [List.inj_on_of_nodup_map settles.once memP memQ same]
  · obtain ⟨a, knownA, nameA, s, readA⟩ := exists_field_of_mem_puts memP
    obtain ⟨b, knownB, nameB, t, readB⟩ := exists_field_of_mem_puts memQ
    exact apart.swap a knownA b knownB (nameA ▸ nameB ▸ same) readA readB record

/-- Members in another order set the same. -/
private theorem recordBy_perm (apart : Apart fields depth) {default r : σ}
    {members members' : List (List Char × Tree)} (perm : members.Perm members')
    (taken : recordBy fields default (.object members) (depth + 1) = some r) :
    recordBy fields default (.object members') (depth + 1) = some r := by
  obtain ⟨settles, rfl⟩ := recordBy_object.mp taken
  have moved : (puts fields depth members).Perm (puts fields depth members') := perm.filterMap _
  refine recordBy_object.mpr ⟨⟨fun member mem => ?_, ?_⟩, ?_⟩
  · exact settles.taken member (perm.mem_iff.mpr mem)
  · exact (moved.map Prod.fst).nodup_iff.mp settles.once
  · exact (setAll_perm apart settles moved default).symm

/-- One member more, wherever it stands: it must not set what another one sets. -/
private theorem recordBy_middle (apart : Apart fields depth) {default r : σ}
    {before after : List (List Char × Tree)} {member : List Char × Tree} :
    recordBy fields default (.object (before ++ member :: after)) (depth + 1) = some r ↔
      ∃ put, putBy fields depth member = some put ∧
        (∀ p ∈ put, ∀ q ∈ puts fields depth (before ++ after), q.1 ≠ p.1) ∧
        recordBy fields (setAll default put.toList) (.object (before ++ after)) (depth + 1) =
          some r := by
  have front : recordBy fields default (.object (before ++ member :: after)) (depth + 1) = some r ↔
      recordBy fields default (.object (member :: (before ++ after))) (depth + 1) = some r :=
    ⟨recordBy_perm apart List.perm_middle, recordBy_perm apart List.perm_middle.symm⟩
  rw [front, recordBy_object, settles_cons, puts_cons]
  constructor
  · rintro ⟨⟨put, given, settles, fresh⟩, rfl⟩
    refine ⟨put, given, fresh, recordBy_object.mpr ⟨settles, ?_⟩⟩
    cases put <;> simp [given, setAll]
  · rintro ⟨put, given, fresh, taken⟩
    obtain ⟨settles, rfl⟩ := recordBy_object.mp taken
    refine ⟨⟨put, given, settles, fresh⟩, ?_⟩
    cases put <;> simp [given, setAll]

/-! ## Single members and items -/

private theorem putBy_unknown {raw : List Char} {name : String} (spells : Spells raw name.toList)
    (unknown : name ∉ fields.map Field.name) (value : Tree) :
    putBy fields depth (raw, value) = some none := by
  rw [putBy_of_chars spells.chars?_eq, String.ofList_toList]
  cases found : field? fields name with
  | none => rfl
  | some field =>
    obtain ⟨known, rfl⟩ := eq_of_field? found
    exact absurd (List.mem_map_of_mem known) unknown

theorem putBy_known (distinct : (fields.map Field.name).Nodup) {raw : List Char} {field : Field σ}
    (known : field ∈ fields) (spells : Spells raw field.name.toList) (value : Tree) :
    putBy fields depth (raw, value) =
      (value.readBy (field.read depth)).map fun set => some (field.name, set) := by
  rw [putBy_of_chars spells.chars?_eq, String.ofList_toList, field?_of_mem distinct known]

/-- In an object that is taken, so is the value of each field that is written, and it is set. -/
theorem exists_put (distinct : (fields.map Field.name).Nodup) {members : List (List Char × Tree)}
    (settles : Settles fields depth members) {raw : List Char} {field : Field σ} {value : Tree}
    (known : field ∈ fields) (spells : Spells raw field.name.toList)
    (mem : (raw, value) ∈ members) :
    ∃ set, value.readBy (field.read depth) = some set ∧
      (field.name, set) ∈ puts fields depth members := by
  have taken := settles.taken _ mem
  rw [putBy_known distinct known spells, Option.isSome_map] at taken
  obtain ⟨set, read⟩ := Option.isSome_iff_exists.mp taken
  refine ⟨set, read, mem_puts.mpr ⟨_, mem, ?_⟩⟩
  rw [putBy_known distinct known spells, read]
  rfl

/-- A list of values, one for each field, sets the fields in their order. -/
private theorem exists_positional (Put : String × (σ → σ) → Prop) {items : List Tree}
    (all : List.Forall₂ (fun field item => ∃ set, item.readBy (field.read depth) = some set ∧
      Put (field.name, set)) fields items) (record : σ) :
    ∃ list, (∀ put ∈ list, Put put) ∧ list.map Prod.fst = fields.map Field.name ∧
      positionalBy depth fields record items = some (setAll record list) := by
  induction all generalizing record with
  | nil => exact ⟨[], fun _ mem => (by cases mem), rfl, rfl⟩
  | @cons field item fields items here _ ih =>
    obtain ⟨set, read, put⟩ := here
    obtain ⟨list, puts, names, taken⟩ := ih (set record)
    refine ⟨(field.name, set) :: list, List.forall_mem_cons.mpr ⟨put, puts⟩, ?_, ?_⟩
    · rw [List.map_cons, names, List.map_cons]
    · simp only [positionalBy, read, Option.bind_eq_bind, Option.bind_some, taken]
      rfl

/-- An object that is taken may as well be written as a list, if all fields are written in it. -/
private theorem recordBy_list (apart : Apart fields depth) {default r : σ}
    {members : List (List Char × Tree)} {items : List Tree}
    (all : List.Forall₂ (fun field item => ∃ raw, Spells raw field.name.toList ∧
      (raw, item) ∈ members) fields items)
    (taken : recordBy fields default (.object members) (depth + 1) = some r) :
    recordBy fields default (.list items) (depth + 1) = some r := by
  obtain ⟨settles, rfl⟩ := recordBy_object.mp taken
  have each : List.Forall₂ (fun field item => ∃ set, item.readBy (field.read depth) = some set ∧
      (field.name, set) ∈ puts fields depth members) fields items :=
    ((List.forall₂_and_left fields items).mpr ⟨fun _ known => known, all⟩).imp
      fun _ _ ⟨known, _, spells, mem⟩ => exists_put apart.distinct settles known spells mem
  obtain ⟨list, within, names, positional⟩ :=
    exists_positional (· ∈ puts fields depth members) each default
  -- Both set each field once, and what is set in one is set in the other.
  have once : (list.map Prod.fst).Nodup := names ▸ apart.distinct
  have same : (puts fields depth members).Perm list := by
    refine (List.perm_ext_iff_of_nodup settles.once.of_map once.of_map).mpr fun put =>
      ⟨fun mem => ?_, within put⟩
    obtain ⟨field, known, named, _⟩ := exists_field_of_mem_puts mem
    have listed : put.1 ∈ list.map Prod.fst := names ▸ named ▸ List.mem_map_of_mem known
    obtain ⟨put', mem', same⟩ := List.mem_map.mp listed
    rwa [List.inj_on_of_nodup_map settles.once mem (within put' mem') same.symm]
  rw [recordBy, positional, setAll_perm apart settles same]

/-- An item of a list that is taken may be replaced by one that is read as the same. -/
private theorem positionalBy_replace {before after : List Tree} {field : Field σ}
    {value value' : Tree} {record r : σ} (known : fields[before.length]? = some field)
    (same : ∀ set, value.readBy (field.read depth) = some set →
      value'.readBy (field.read depth) = some set)
    (taken : positionalBy depth fields record (before ++ value :: after) = some r) :
    positionalBy depth fields record (before ++ value' :: after) = some r := by
  induction before generalizing fields record with
  | nil =>
    cases fields with
    | nil => cases known
    | cons other fields =>
      obtain rfl : other = field := by simpa using known
      obtain ⟨set, read, more⟩ := Option.bind_eq_some_iff.mp taken
      exact Option.bind_eq_some_iff.mpr ⟨set, same set read, more⟩
  | cons item before ih =>
    cases fields with
    | nil => cases known
    | cons other fields =>
      obtain ⟨set, read, more⟩ := Option.bind_eq_some_iff.mp taken
      exact Option.bind_eq_some_iff.mpr ⟨set, read, ih (by simpa using known) more⟩

/-! ## Rewriting -/

/-- Another way of writing a record. Names may be written with any escapes; `inner` are other ways
of writing the values of fields. -/
inductive Rewrites (fields : List (Field σ)) (default : σ) (depth : Nat)
    (inner : Field σ → Tree → Tree → Prop) : Tree → Tree → Prop
  /-- Its members in any order. -/
  | permute {members members' : List (List Char × Tree)} (perm : members.Perm members') :
      Rewrites fields default depth inner (.object members) (.object members')
  /-- With a member of which there is no field. -/
  | insert {before after : List (List Char × Tree)} {raw : List Char} {name : String} {value : Tree}
      (spells : Spells raw name.toList) (unknown : name ∉ fields.map Field.name)
      (formed : value.Formed) :
      Rewrites fields default depth inner (.object (before ++ after))
        (.object (before ++ (raw, value) :: after))
  /-- Without a field that is read as in the default. -/
  | drop {before after : List (List Char × Tree)} {raw : List Char} {field : Field σ} {value : Tree}
      {set : σ → σ} (known : field ∈ fields) (spells : Spells raw field.name.toList)
      (reads : value.readBy (field.read depth) = some set) (same : set default = default) :
      Rewrites fields default depth inner (.object (before ++ (raw, value) :: after))
        (.object (before ++ after))
  /-- With a field that was not written, read as in the default. -/
  | supply {before after : List (List Char × Tree)} {raw : List Char} {field : Field σ}
      {value : Tree} {set : σ → σ} (known : field ∈ fields) (spells : Spells raw field.name.toList)
      (absent : ∀ member ∈ before ++ after, ¬ Spells member.1 field.name.toList)
      (formed : value.Formed) (reads : value.readBy (field.read depth) = some set)
      (same : set default = default) :
      Rewrites fields default depth inner (.object (before ++ after))
        (.object (before ++ (raw, value) :: after))
  /-- As a list of the values of all its fields in their order. -/
  | list {members : List (List Char × Tree)} {items : List Tree}
      (all : List.Forall₂ (fun field item => ∃ raw, Spells raw field.name.toList ∧
        (raw, item) ∈ members) fields items) :
      Rewrites fields default depth inner (.object members) (.list items)
  /-- With the value of a field written in another way. -/
  | inside {before after : List (List Char × Tree)} {raw : List Char} {field : Field σ}
      {value value' : Tree} (known : field ∈ fields) (spells : Spells raw field.name.toList)
      (step : inner field value value') :
      Rewrites fields default depth inner (.object (before ++ (raw, value) :: after))
        (.object (before ++ (raw, value') :: after))
  /-- The same in a list. -/
  | item {before after : List Tree} {field : Field σ} {value value' : Tree}
      (known : fields[before.length]? = some field) (step : inner field value value') :
      Rewrites fields default depth inner (.list (before ++ value :: after))
        (.list (before ++ value' :: after))

/-- If the first tree can be taken, the other one is taken for the same. -/
def Keeps {α : Type} (make : Tree → Option α) (t t' : Tree) : Prop :=
  t.Formed → t'.Formed ∧ ∀ x, make t = some x → make t' = some x

theorem keeps_of_reflTransGen {α : Type} {make : Tree → Option α} {step : Tree → Tree → Prop}
    (keeps : ∀ t t', step t t' → Keeps make t t') {t t' : Tree}
    (steps : Relation.ReflTransGen step t t') : Keeps make t t' := by
  induction steps with
  | refl => exact fun formed => ⟨formed, fun _ => id⟩
  | tail _ step ih =>
    intro formed
    obtain ⟨formed, same⟩ := ih formed
    obtain ⟨formed, same'⟩ := keeps _ _ step formed
    exact ⟨formed, fun x taken => same' x (same x taken)⟩

private theorem Keeps.congr {α : Type} {make make' : Tree → Option α} {t t' : Tree}
    (keeps : Keeps make t t') (same : ∀ t : Tree, t.Formed → make' t = make t) :
    Keeps make' t t' := by
  intro formed
  obtain ⟨formed', kept⟩ := keeps formed
  rw [same t formed, same t' formed']
  exact ⟨formed', kept⟩

theorem formed_object {members : List (List Char × Tree)} :
    (Tree.object members).Formed ↔ ∀ member ∈ members, Shape member.1 ∧ member.2.Formed := by
  constructor
  · rintro (_ | _ | _ | _ | _ | ⟨names, formed⟩) member mem
    exact ⟨names member mem, formed member mem⟩
  · exact fun all => .object (fun x mem => (all x mem).1) fun x mem => (all x mem).2

theorem formed_list {items : List Tree} :
    (Tree.list items).Formed ↔ ∀ item ∈ items, item.Formed := by
  constructor
  · rintro (_ | _ | _ | _ | formed)
    exact formed
  · exact .list

private theorem formed_middle {before after : List (List Char × Tree)} {raw : List Char}
    {value : Tree} :
    (Tree.object (before ++ (raw, value) :: after)).Formed ↔
      (Shape raw ∧ value.Formed) ∧ (Tree.object (before ++ after)).Formed := by
  simp only [formed_object, List.forall_mem_append, List.forall_mem_cons]
  tauto

private theorem exists_member_of_all {P : Field σ → List Char → Prop}
    {members : List (List Char × Tree)} {items : List Tree}
    (all : List.Forall₂ (fun field item => ∃ raw, P field raw ∧ (raw, item) ∈ members)
      fields items) : ∀ item ∈ items, ∃ raw, (raw, item) ∈ members := by
  induction all with
  | nil => exact fun _ mem => (by cases mem)
  | cons here _ ih =>
    obtain ⟨raw, _, listed⟩ := here
    exact List.forall_mem_cons.mpr ⟨⟨raw, listed⟩, ih⟩

/-- A record that is written in another way is read as the same record. -/
theorem Rewrites.keeps {default : σ} {inner : Field σ → Tree → Tree → Prop} {t t' : Tree}
    (apart : Apart fields depth)
    (keeps : ∀ field ∈ fields, ∀ value value', inner field value value' →
      Keeps (Tree.readBy (field.read depth)) value value')
    (step : Rewrites fields default depth inner t t') :
    Keeps (fun t => recordBy fields default t (depth + 1)) t t' := by
  intro formed
  cases step with
  | permute perm =>
    refine ⟨formed_object.mpr fun x mem => ?_, fun r taken => recordBy_perm apart perm taken⟩
    exact formed_object.mp formed x (perm.mem_iff.mpr mem)
  | insert spells unknown formedValue =>
    refine ⟨formed_middle.mpr ⟨⟨spells.shape, formedValue⟩, formed⟩, fun r taken => ?_⟩
    refine (recordBy_middle apart).mpr ⟨none, putBy_unknown spells unknown _, ?_, taken⟩
    exact fun p mem => (by cases mem)
  | drop known spells reads same =>
    refine ⟨(formed_middle.mp formed).2, fun r taken => ?_⟩
    obtain ⟨put, given, _, taken⟩ := (recordBy_middle apart).mp taken
    rw [putBy_known apart.distinct known spells, reads] at given
    obtain rfl := Option.some.inj given
    simpa [setAll, same] using taken
  | supply known spells absent formedValue reads same =>
    refine ⟨formed_middle.mpr ⟨⟨spells.shape, formedValue⟩, formed⟩, fun r taken => ?_⟩
    refine (recordBy_middle apart).mpr ⟨_, putBy_known apart.distinct known spells _ |>.trans
      (by rw [reads]; rfl), ?_, ?_⟩
    · rintro _ ⟨⟩ q mem repeated
      obtain ⟨⟨raw, value⟩, listed, given⟩ := mem_puts.mp mem
      have shape := (formed_object.mp formed _ listed).1
      have named := (putBy_eq_some_iff.mp given).1
      rw [repeated] at named
      exact absent _ listed (shape.chars?_eq_some_iff.mp named)
    · simpa [setAll, same] using taken
  | list all =>
    refine ⟨formed_list.mpr fun item mem => ?_, fun r taken => recordBy_list apart all taken⟩
    obtain ⟨raw, listed⟩ := exists_member_of_all all item mem
    exact (formed_object.mp formed _ listed).2
  | inside known spells step =>
    obtain ⟨⟨shape, formedValue⟩, others⟩ := formed_middle.mp formed
    obtain ⟨formedValue, same⟩ := keeps _ known _ _ step formedValue
    refine ⟨formed_middle.mpr ⟨⟨shape, formedValue⟩, others⟩, fun r taken => ?_⟩
    obtain ⟨put, given, fresh, taken⟩ := (recordBy_middle apart).mp taken
    refine (recordBy_middle apart).mpr ⟨put, ?_, fresh, taken⟩
    rw [putBy_known apart.distinct known spells, Option.map_eq_some_iff] at given ⊢
    obtain ⟨set, read, given⟩ := given
    exact ⟨set, same set read, given⟩
  | item known step =>
    have all := formed_list.mp formed
    simp only [List.forall_mem_append, List.forall_mem_cons] at all
    obtain ⟨formedValue, same⟩ := keeps _ (List.mem_of_getElem? known) _ _ step all.2.1
    refine ⟨formed_list.mpr ?_, fun r taken => positionalBy_replace known same taken⟩
    simp only [List.forall_mem_append, List.forall_mem_cons]
    exact ⟨all.1, formedValue, all.2.2⟩

theorem readBy_readRecord (title : String) (default : σ)
    (regular : ∀ field ∈ fields, ∀ depth, Regular (field.read depth)) (depth : Nat) {t : Tree}
    (formed : t.Formed) :
    t.readBy (readRecord title fields default depth) = recordBy fields default t depth :=
  (gives_readRecord title default regular depth formed).readBy_eq

theorem keeps_readRecord (title : String) {default : σ} {t t' : Tree}
    (regular : ∀ field ∈ fields, ∀ depth, Regular (field.read depth))
    (keeps : Keeps (fun t => recordBy fields default t depth) t t') :
    Keeps (Tree.readBy (readRecord title fields default depth)) t t' :=
  keeps.congr fun _ formed => readBy_readRecord title default regular depth formed

variable {α β : Type}

theorem Keeps.map {make : Tree → Option α} {t t' : Tree} (keeps : Keeps make t t') (f : α → β) :
    Keeps (fun t => (make t).map f) t t' := by
  intro formed
  obtain ⟨formed', same⟩ := keeps formed
  refine ⟨formed', fun y taken => ?_⟩
  obtain ⟨x, made, rfl⟩ := Option.map_eq_some_iff.mp taken
  exact Option.map_eq_some_iff.mpr ⟨x, same x made, rfl⟩

private theorem mapM_replace {make : α → Option β} {before after : List α} {x x' : α} {ys : List β}
    (same : ∀ y, make x = some y → make x' = some y)
    (taken : (before ++ x :: after).mapM make = some ys) :
    (before ++ x' :: after).mapM make = some ys := by
  induction before generalizing ys with
  | nil =>
    rw [List.nil_append, List.mapM_cons] at taken ⊢
    obtain ⟨y, made, more⟩ := Option.bind_eq_some_iff.mp taken
    exact Option.bind_eq_some_iff.mpr ⟨y, same y made, more⟩
  | cons z before ih =>
    rw [List.cons_append, List.mapM_cons] at taken ⊢
    obtain ⟨y, made, rest⟩ := Option.bind_eq_some_iff.mp taken
    obtain ⟨zs, more, put⟩ := Option.bind_eq_some_iff.mp rest
    exact Option.bind_eq_some_iff.mpr ⟨y, made, Option.bind_eq_some_iff.mpr ⟨zs, ih more, put⟩⟩

/-- A map is read as the same if one of its values is written in another way. -/
theorem keeps_mapBy {item : Nat → Reader α} {before after : List (List Char × Tree)}
    {raw : List Char} {value value' : Tree}
    (keeps : Keeps (Tree.readBy (item depth)) value value') :
    Keeps (fun t => mapBy item t (depth + 1)) (.object (before ++ (raw, value) :: after))
      (.object (before ++ (raw, value') :: after)) := by
  intro formed
  obtain ⟨⟨shape, formedValue⟩, others⟩ := formed_middle.mp formed
  obtain ⟨formedValue', same⟩ := keeps formedValue
  refine ⟨formed_middle.mpr ⟨⟨shape, formedValue'⟩, others⟩, fun entries taken => ?_⟩
  refine mapM_replace (fun entry made => ?_) taken
  obtain ⟨name, named, rest⟩ := Option.bind_eq_some_iff.mp made
  obtain ⟨x, read, put⟩ := Option.bind_eq_some_iff.mp rest
  exact Option.bind_eq_some_iff.mpr ⟨name, named, Option.bind_eq_some_iff.mpr ⟨x, same x read, put⟩⟩

theorem keeps_readMap {item : Nat → Reader α} (regular : ∀ depth, Regular (item depth))
    {t t' : Tree} (keeps : Keeps (fun t => mapBy item t depth) t t') :
    Keeps (Tree.readBy (readMap item depth)) t t' :=
  keeps.congr fun _ formed => (gives_readMap regular depth formed).readBy_eq

end Json

end Intake
