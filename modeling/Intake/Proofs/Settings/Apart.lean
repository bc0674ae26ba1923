import Intake.Proofs.Json.Coverage
import Intake.Proofs.Json.Rewriting
import Intake.Proofs.Settings.Agreement

/-!
# The fields of settings stand apart

The values of all fields are taken as trees, the same in every layout, and no field touches what
another one sets: neither among the settings of a pool or of a consumer, nor in a document.
-/

namespace Intake

open Json (Tree Regular Covers Apart)

/-- What a mapped reader makes of a tree. -/
private theorem Json.readBy_map {α β : Type} (read : Json.Reader α) (f : α → β) (t : Tree) :
    (t.readBy fun s => (read s).map fun (x, rest) => (f x, rest)) = (t.readBy read).map f := by
  unfold Tree.readBy
  dsimp only
  cases read t.tokens.flatten <;> rfl

/-! ## Settings -/

section

variable {σ : Type}

private theorem Setting.regular_jsonField (setting : Setting σ) (depth : Nat) :
    Regular (setting.jsonField.read depth) := by
  obtain ⟨field, variableName, slot⟩ := setting
  cases slot with
  | flag get set => exact Json.regular_readBoolean.map set
  | text needed get set => exact Json.regular_readText.map set
  | number title bits get set => exact (Json.regular_readNatural title _).map set

private theorem Setting.covers_jsonField (setting : Setting σ) (depth : Nat) :
    Covers (setting.jsonField.read depth) := by
  obtain ⟨field, variableName, slot⟩ := setting
  cases slot with
  | flag get set => exact Json.covers_readBoolean.map set
  | text needed get set => exact Json.covers_readText.map set
  | number title bits get set => exact (Json.covers_readNatural title _).map set

/-- The draft gives for a setting what the other one gives. -/
def Draft.Gives (d other : Draft) (field : String) : Prop :=
  d.flags field = other.flags field ∧ d.texts field = other.texts field ∧
    d.numbers field = other.numbers field

/-- What is read for a setting is put in as a draft would put it in. -/
private theorem Setting.exists_draft {setting : Setting σ} {depth : Nat} {t : Tree} {f : σ → σ}
    (read : t.readBy (setting.jsonField.read depth) = some f) :
    ∃ other : Draft, ∀ d : Draft, d.Gives other setting.field →
      ∀ record, d.put record setting = f record := by
  obtain ⟨field, variableName, slot⟩ := setting
  cases slot with
  | flag get set =>
    obtain ⟨b, _, rfl⟩ := Option.map_eq_some_iff.mp ((Json.readBy_map _ set t).symm.trans read)
    refine ⟨⟨fun _ => some b, fun _ => none, fun _ => none⟩, fun d gives record => ?_⟩
    simp [Draft.put, gives.1]
  | text needed get set =>
    obtain ⟨text, _, rfl⟩ := Option.map_eq_some_iff.mp ((Json.readBy_map _ set t).symm.trans read)
    refine ⟨⟨fun _ => none, fun _ => some text, fun _ => none⟩, fun d gives record => ?_⟩
    simp [Draft.put, gives.2.1]
  | number title bits get set =>
    obtain ⟨n, _, rfl⟩ := Option.map_eq_some_iff.mp ((Json.readBy_map _ set t).symm.trans read)
    refine ⟨⟨fun _ => none, fun _ => none, fun _ => some n⟩, fun d gives record => ?_⟩
    simp [Draft.put, gives.2.2]

/-- Settings that stand for themselves do so as the fields of a record. -/
private theorem Setting.Independent.swap_jsonField {table : List (Setting σ)} {default : σ}
    (independent : Setting.Independent table default) {a b : Setting σ} (inTable : a ∈ table)
    (inTable' : b ∈ table) (differ : a.field ≠ b.field) {depth : Nat} {s t : Tree} {f g : σ → σ}
    (read : s.readBy (a.jsonField.read depth) = some f)
    (read' : t.readBy (b.jsonField.read depth) = some g) (record : σ) :
    g (f record) = f (g record) := by
  obtain ⟨d, puts⟩ := Setting.exists_draft read
  obtain ⟨e, puts'⟩ := Setting.exists_draft read'
  -- One draft that gives both.
  let both : Draft := {
    flags := fun name => if name = a.field then d.flags name else e.flags name
    texts := fun name => if name = a.field then d.texts name else e.texts name
    numbers := fun name => if name = a.field then d.numbers name else e.numbers name }
  have first := puts both ⟨if_pos rfl, if_pos rfl, if_pos rfl⟩
  have second := puts' both ⟨if_neg differ.symm, if_neg differ.symm, if_neg differ.symm⟩
  have swap := independent.swap both a inTable b inTable' record
  rwa [first, second, second, first] at swap

end

/-! ## The settings of a pool -/

namespace PoolSettings

theorem regular_fields : ∀ field ∈ fields, ∀ depth, Regular (field.read depth) := by
  intro field mem depth
  obtain ⟨setting, _, rfl⟩ := List.mem_map.mp mem
  exact setting.regular_jsonField depth

private theorem covers_fields : ∀ field ∈ fields, ∀ depth, Covers (field.read depth) := by
  intro field mem depth
  obtain ⟨setting, _, rfl⟩ := List.mem_map.mp mem
  exact setting.covers_jsonField depth

theorem apart_fields (depth : Nat) : Apart fields depth where
  distinct := fields_distinct
  swap := by
    intro a memA b memB differ s t f g read read' record
    obtain ⟨a, inTable, rfl⟩ := List.mem_map.mp memA
    obtain ⟨b, inTable', rfl⟩ := List.mem_map.mp memB
    rw [a.jsonField_name, b.jsonField_name] at differ
    exact independent.swap_jsonField inTable inTable' differ read read' record

private theorem regular_read (depth : Nat) : Regular (read depth) :=
  Json.regular_readRecord _ default regular_fields depth

private theorem covers_read (depth : Nat) : Covers (read depth) :=
  Json.covers_readRecord _ default covers_fields depth

end PoolSettings

/-! ## The settings of a consumer -/

namespace ConsumerSettings

private theorem mem_fields {field : Json.Field ConsumerSettings} :
    field ∈ fields ↔ (∃ setting ∈ table, setting.jsonField = field) ∨ field = argumentsField := by
  simp [fields]

/-- Put in arguments as a document gives them. -/
def putArguments (entries : List (String × Json.Value)) (record : ConsumerSettings) :
    ConsumerSettings :=
  { record with arguments := Json.sortedByName entries }

private theorem regular_argumentsField (depth : Nat) : Regular (argumentsField.read depth) :=
  (Json.regular_readMap Json.regular_readValue depth).map putArguments

private theorem covers_argumentsField (depth : Nat) : Covers (argumentsField.read depth) :=
  (Json.covers_readMap Json.covers_readValue depth).map putArguments

theorem regular_fields : ∀ field ∈ fields, ∀ depth, Regular (field.read depth) := by
  intro field mem depth
  obtain ⟨setting, _, rfl⟩ | rfl := mem_fields.mp mem
  · exact setting.regular_jsonField depth
  · exact regular_argumentsField depth

private theorem covers_fields : ∀ field ∈ fields, ∀ depth, Covers (field.read depth) := by
  intro field mem depth
  obtain ⟨setting, _, rfl⟩ | rfl := mem_fields.mp mem
  · exact setting.covers_jsonField depth
  · exact covers_argumentsField depth

/-- No setting of the table touches the arguments. -/
private theorem put_putArguments (d : Draft) {setting : Setting ConsumerSettings}
    (inTable : setting ∈ table) (entries : List (String × Json.Value)) (record : ConsumerSettings) :
    d.put (putArguments entries record) setting = putArguments entries (d.put record setting) := by
  revert inTable setting
  simp [table, Draft.put, putArguments]

private theorem swap_argumentsField {setting : Setting ConsumerSettings} (inTable : setting ∈ table)
    {depth : Nat} {s t : Tree} {f g : ConsumerSettings → ConsumerSettings}
    (read : s.readBy (setting.jsonField.read depth) = some f)
    (read' : t.readBy (argumentsField.read depth) = some g) (record : ConsumerSettings) :
    g (f record) = f (g record) := by
  obtain ⟨d, puts⟩ := Setting.exists_draft read
  have put := puts d ⟨rfl, rfl, rfl⟩
  obtain ⟨entries, _, rfl⟩ :=
    Option.map_eq_some_iff.mp ((Json.readBy_map _ putArguments t).symm.trans read')
  rw [← put, ← put, put_putArguments d inTable]

theorem apart_fields (depth : Nat) : Apart fields depth where
  distinct := fields_distinct
  swap := by
    intro a memA b memB differ s t f g read read' record
    obtain ⟨a, inTable, rfl⟩ | rfl := mem_fields.mp memA
    · obtain ⟨b, inTable', rfl⟩ | rfl := mem_fields.mp memB
      · rw [a.jsonField_name, b.jsonField_name] at differ
        exact independent.swap_jsonField inTable inTable' differ read read' record
      · exact swap_argumentsField inTable read read' record
    · obtain ⟨b, inTable', rfl⟩ | rfl := mem_fields.mp memB
      · exact (swap_argumentsField inTable' read' read record).symm
      · exact absurd rfl differ

theorem regular_read (depth : Nat) : Regular (read depth) :=
  Json.regular_readRecord _ default regular_fields depth

private theorem covers_read (depth : Nat) : Covers (read depth) :=
  Json.covers_readRecord _ default covers_fields depth

end ConsumerSettings

/-! ## Documents -/

namespace Document

def putPool (pool : PoolSettings) (record : Document) : Document := { record with pool }

/-- Put in consumers as a document gives them. -/
def putConsumers (entries : List (String × ConsumerSettings)) (record : Document) : Document :=
  { record with consumers := Json.sortedByName entries }

theorem readBy_poolField (depth : Nat) (t : Tree) :
    t.readBy (poolField.read depth) = (t.readBy (PoolSettings.read depth)).map putPool :=
  Json.readBy_map _ putPool t

theorem readBy_consumersField (depth : Nat) (t : Tree) :
    t.readBy (consumersField.read depth) =
      (t.readBy (Json.readMap ConsumerSettings.read depth)).map putConsumers :=
  Json.readBy_map _ putConsumers t

theorem regular_fields : ∀ field ∈ fields, ∀ depth, Regular (field.read depth) := by
  intro field mem depth
  obtain rfl | rfl := List.mem_pair.mp mem
  · exact (PoolSettings.regular_read depth).map putPool
  · exact (Json.regular_readMap ConsumerSettings.regular_read depth).map putConsumers

theorem covers_fields : ∀ field ∈ fields, ∀ depth, Covers (field.read depth) := by
  intro field mem depth
  obtain rfl | rfl := List.mem_pair.mp mem
  · exact (PoolSettings.covers_read depth).map putPool
  · exact (Json.covers_readMap ConsumerSettings.covers_read depth).map putConsumers

theorem apart_fields (depth : Nat) : Apart fields depth where
  distinct := fields_distinct
  swap := by
    have swap {depth : Nat} {s t : Tree} {f g : Document → Document}
        (read : s.readBy (poolField.read depth) = some f)
        (read' : t.readBy (consumersField.read depth) = some g) (record : Document) :
        g (f record) = f (g record) := by
      rw [readBy_poolField] at read
      rw [readBy_consumersField] at read'
      obtain ⟨pool, _, rfl⟩ := Option.map_eq_some_iff.mp read
      obtain ⟨consumers, _, rfl⟩ := Option.map_eq_some_iff.mp read'
      rfl
    intro a memA b memB differ s t f g read read' record
    obtain rfl | rfl := List.mem_pair.mp memA
    · obtain rfl | rfl := List.mem_pair.mp memB
      · exact absurd rfl differ
      · exact swap read read' record
    · obtain rfl | rfl := List.mem_pair.mp memB
      · exact (swap read' read record).symm
      · exact absurd rfl differ

end Document

end Intake
