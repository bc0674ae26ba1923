import Intake.Proofs.Json.Rewriting

/-!
# Fields that are written twice

A record in which two members are written for one field is refused, whatever their values are, and
so is whatever such a record stands in.
-/

namespace Intake

namespace Json

variable {σ : Type} {fields : List (Field σ)} {default : σ} {depth : Nat}

/-- Some field is written twice, by names that may differ in their escapes; or so it is in the value
of a field, as `inner` says. -/
inductive Repeats (fields : List (Field σ)) (inner : Field σ → Tree → Prop) : Tree → Prop
  | here {members : List (List Char × Tree)} {field : Field σ} {raw raw' : List Char}
      {value value' : Tree} (known : field ∈ fields) (spells : Spells raw field.name.toList)
      (spells' : Spells raw' field.name.toList)
      (twice : [(raw, value), (raw', value')].Sublist members) :
      Repeats fields inner (.object members)
  | inside {members : List (List Char × Tree)} {field : Field σ} {raw : List Char} {value : Tree}
      (known : field ∈ fields) (spells : Spells raw field.name.toList)
      (written : (raw, value) ∈ members) (within : inner field value) :
      Repeats fields inner (.object members)
  | item {items : List Tree} {i : Nat} {field : Field σ} {value : Tree}
      (known : fields[i]? = some field) (written : items[i]? = some value)
      (within : inner field value) : Repeats fields inner (.list items)

/-- A list is refused if the value of one of its fields is. -/
private theorem positionalBy_refused {items : List Tree} {i : Nat} {field : Field σ} {value : Tree}
    (known : fields[i]? = some field) (written : items[i]? = some value)
    (refused : value.readBy (field.read depth) = none) (record : σ) :
    positionalBy depth fields record items = none := by
  induction i generalizing fields items record with
  | zero =>
    obtain _ | ⟨other, fields⟩ := fields
    · cases known
    obtain _ | ⟨item, items⟩ := items
    · cases written
    obtain rfl := Option.some.inj known
    obtain rfl := Option.some.inj written
    rw [positionalBy, refused]
    rfl
  | succ i ih =>
    obtain _ | ⟨other, fields⟩ := fields
    · cases known
    obtain _ | ⟨item, items⟩ := items
    · cases written
    rw [positionalBy]
    cases item.readBy (other.read depth) with
    | none => rfl
    | some set => exact ih known written (set record)

theorem Repeats.refused {inner : Field σ → Tree → Prop} {t : Tree}
    (distinct : (fields.map Field.name).Nodup)
    (refuses : ∀ field ∈ fields, ∀ value : Tree, inner field value → value.Formed →
      value.readBy (field.read depth) = none)
    (formed : t.Formed) (repeats : Repeats fields inner t) :
    recordBy fields default t (depth + 1) = none := by
  cases repeats with
  | @here members field raw raw' value value' known spells spells' twice =>
    refine Option.eq_none_iff_forall_ne_some.mpr fun r taken => ?_
    obtain ⟨settles, _⟩ := recordBy_object.mp taken
    have first := settles.taken _ (twice.mem List.mem_cons_self)
    have second := settles.taken _ (twice.mem (List.mem_cons_of_mem _ List.mem_cons_self))
    rw [putBy_known distinct known spells, Option.isSome_map] at first
    rw [putBy_known distinct known spells', Option.isSome_map] at second
    obtain ⟨f, read⟩ := Option.isSome_iff_exists.mp first
    obtain ⟨g, read'⟩ := Option.isSome_iff_exists.mp second
    have both : puts fields depth [(raw, value), (raw', value')] =
        [(field.name, f), (field.name, g)] := by
      simp [puts, putBy_known distinct known, spells, spells', read, read']
    have set : (puts fields depth [(raw, value), (raw', value')]).Sublist
        (puts fields depth members) := twice.filterMap _
    rw [both] at set
    have once := (set.map Prod.fst).nodup settles.once
    simp at once
  | inside known spells written within =>
    refine Option.eq_none_iff_forall_ne_some.mpr fun r taken => ?_
    obtain ⟨settles, _⟩ := recordBy_object.mp taken
    obtain ⟨set, read, _⟩ := exists_put distinct settles known spells written
    have formedValue := (formed_object.mp formed _ written).2
    rw [refuses _ known _ within formedValue] at read
    cases read
  | item known written within =>
    have formedValue := formed_list.mp formed _ (List.mem_of_getElem? written)
    have refused := refuses _ (List.mem_of_getElem? known) _ within formedValue
    rw [recordBy, positionalBy_refused known written refused]

/-- A map is refused if the value of one of its entries is. -/
theorem mapBy_refused {α : Type} {item : Nat → Reader α} {members : List (List Char × Tree)}
    {raw : List Char} {value : Tree} (written : (raw, value) ∈ members)
    (refused : value.readBy (item depth) = none) :
    mapBy item (.object members) (depth + 1) = none := by
  have entry : entryBy (item depth) (raw, value) = none := by
    rw [entryBy, refused]
    cases chars? raw <;> rfl
  change members.mapM (entryBy (item depth)) = none
  induction members with
  | nil => cases written
  | cons member members ih =>
    rw [List.mapM_cons]
    obtain rfl | written := List.mem_cons.mp written
    · rw [entry]
      rfl
    · rw [ih written]
      cases entryBy (item depth) member <;> rfl

end Json

end Intake
