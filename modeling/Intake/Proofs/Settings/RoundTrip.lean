import Mathlib.Data.List.Nodup
import Intake.Proofs.Json.Record
import Intake.Settings.Document

/-!
# Configuration, written and read

The settings of a pool and of a consumer are read back from their written forms in every field, and
so is a document made of them. The arguments of a consumer have to be free of doubles and must not
nest deeper than a document lets them.
-/

namespace Intake

open Json (Blank Reads Filled Sorted)

/-! ## Tables of settings -/

section

variable {σ : Type}

/-- Put the value that one record has in a slot into another. -/
def Slot.copy (source : σ) : Slot σ → σ → σ
  | .flag get set => set (get source)
  | .text _ get set => set (get source)
  | .number _ _ get set => set (get source)

/-- What a record has in a slot is within the slot's range, which is one of at most 64 bits. -/
def Slot.Fits (record : σ) : Slot σ → Prop
  | .number _ bits get _ => get record < 2 ^ bits ∧ bits ≤ 64
  | _ => True

/-- A setting as a record writes it. -/
def Setting.filled (record : σ) (setting : Setting σ) : Filled σ where
  field := setting.jsonField
  text := setting.jsonField.print record
  set := setting.slot.copy record

private theorem Setting.filled_reads (record : σ) (setting : Setting σ) (depth : Nat)
    (fits : setting.slot.Fits record) : (setting.filled record).Reads depth := by
  obtain ⟨name, variableName, slot⟩ := setting
  cases slot with
  | flag get set => exact (Json.reads_boolean (get record)).map set
  | text needed get set => exact (Json.reads_text (get record)).map set
  | number title bits get set =>
    have size : 2 ^ bits ≤ 2 ^ 64 := Nat.pow_le_pow_right (by decide) fits.2
    exact (Json.reads_natural title fits.1 size).map set

/-- Settings that fit are all read back. -/
private theorem Setting.filled_table (record : σ) {table : List (Setting σ)} (depth : Nat)
    (fits : ∀ setting ∈ table, setting.slot.Fits record) :
    ∀ f ∈ table.map (Setting.filled record),
      f.text = f.field.print record ∧ f.Reads depth := by
  intro f mem
  obtain ⟨setting, listed, rfl⟩ := List.mem_map.mp mem
  exact ⟨rfl, setting.filled_reads record depth (fits setting listed)⟩

end

/-! ## The settings of a pool -/

namespace PoolSettings

theorem fits (s : PoolSettings) : ∀ setting ∈ table, setting.slot.Fits s := by
  simpa [table, Slot.Fits] using ⟨s.prefetchCount.toNat_lt, s.prefetchSize.toNat_lt⟩

theorem fields_distinct : (fields.map Json.Field.name).Nodup := by decide

/-- All settings of a pool put in make the settings of that pool. -/
private theorem fill_table (s : PoolSettings) :
    Json.fill (table.map (Setting.filled s)) default = s := by
  simp [Json.fill, table, Setting.filled, Slot.copy]

/-- The settings of a pool are read back. -/
theorem reads_print (s : PoolSettings) (depth : Nat) : Reads (read (depth + 1)) s.print s := by
  have all : (table.map (Setting.filled s)).map Filled.field = fields := by
    simp [fields, Setting.filled]
  exact Json.reads_printRecord fields_distinct all (Setting.filled_table s depth (fits s))
    (fill_table s)

end PoolSettings

/-! ## The settings of a consumer -/

namespace ConsumerSettings

theorem fits (s : ConsumerSettings) : ∀ setting ∈ table, setting.slot.Fits s := by
  have := s.prefetchCount.toNat_lt
  have := s.prefetchSize.toNat_lt
  have := s.messageBuffer.toNat_lt
  have := s.errorBuffer.toNat_lt
  have := s.errorPause.toNat_lt
  have := s.idlePause.toNat_lt
  have := s.maxInFlight.toNat_lt
  simp [table, Slot.Fits]
  omega

theorem fields_distinct : (fields.map Json.Field.name).Nodup := by decide

/-- The arguments of a consumer as its settings write them. -/
def filledArguments (s : ConsumerSettings) : Filled ConsumerSettings where
  field := argumentsField
  text := argumentsField.print s
  set record := { record with arguments := s.arguments }

/-- All settings of a consumer put in make the settings of that consumer. -/
private theorem fill_table (s : ConsumerSettings) :
    Json.fill (table.map (Setting.filled s) ++ [s.filledArguments]) default = s := by
  simp [Json.fill, table, Setting.filled, Slot.copy, filledArguments]

private theorem filledArguments_reads (s : ConsumerSettings) {depth : Nat}
    (sorted : Sorted s.arguments) (plain : ∀ argument ∈ s.arguments, argument.2.Plain depth) :
    s.filledArguments.Reads (depth + 1) := by
  have entries : Reads (Json.readMap Json.readValue (depth + 1))
      (Json.Value.object s.arguments).print s.arguments := by
    rw [Json.Value.print_object]
    exact Json.reads_map Blank.nil fun argument mem => (plain argument mem).reads
  have put := entries.map fun entries (record : ConsumerSettings) =>
    { record with arguments := Json.sortedByName entries }
  rw [sorted.sortedByName] at put
  exact put

/-- No adjustment takes the arguments out of their order. -/
theorem sorted_adjust (s : ConsumerSettings) (adjustment : Adjustment)
    (sorted : Sorted s.arguments) : Sorted (s.adjust adjustment).arguments := by
  cases adjustment with
  | argument name value => exact sorted.putSorted name value
  | _ => exact sorted

/-- The settings of a consumer are read back. -/
theorem reads_print (s : ConsumerSettings) {depth : Nat} (sorted : Sorted s.arguments)
    (plain : ∀ argument ∈ s.arguments, argument.2.Plain depth) :
    Reads (read (depth + 2)) s.print s := by
  have all : (table.map (Setting.filled s) ++ [s.filledArguments]).map Filled.field = fields := by
    simp [fields, Setting.filled, filledArguments]
  refine Json.reads_printRecord fields_distinct all (fun f mem => ?_) (fill_table s)
  obtain mem | mem := List.mem_append.mp mem
  · exact Setting.filled_table s (depth + 1) (fits s) f mem
  · rw [List.mem_singleton.mp mem]
    exact ⟨rfl, s.filledArguments_reads sorted plain⟩

end ConsumerSettings

/-! ## Documents -/

namespace Document

/-- A document with a gap behind each of its commas and colons; the settings in it have none. -/
def written (gap : List Char) (d : Document) : List Char :=
  Json.spacedObject gap [
    Json.spacedField gap "PoolConfig" d.pool.print,
    Json.spacedField gap "ConsumerConfigs" (Json.spacedObject gap
      (d.consumers.map fun consumer => Json.spacedField gap consumer.1 consumer.2.print))]

/-- Without gaps, that is how documents are written. -/
theorem written_nil (d : Document) : d.written [] = d.print := by
  simp [written, print, Json.printRecord, Json.printObject_eq_spacedObject, fields, poolField,
    consumersField, Json.printField, Json.spacedField]

example : written [' '] ⟨⟨5, 0⟩, []⟩ =
    ("\x7b\"PoolConfig\": \x7b\"GlobalQosCount\":5,\"GlobalQosSize\":0\x7d, " ++
      "\"ConsumerConfigs\": \x7b\x7d\x7d").toList := by
  decide

theorem fields_distinct : (fields.map Json.Field.name).Nodup := by decide

/-- The pool as a document writes it. -/
def filledPool (d : Document) : Filled Document where
  field := poolField
  text := d.pool.print
  set record := { record with pool := d.pool }

/-- The consumers as a document writes them. -/
def filledConsumers (gap : List Char) (d : Document) : Filled Document where
  field := consumersField
  text := Json.spacedObject gap
    (d.consumers.map fun consumer => Json.spacedField gap consumer.1 consumer.2.print)
  set record := { record with consumers := d.consumers }

private theorem filledPool_reads (d : Document) (depth : Nat) : d.filledPool.Reads (depth + 1) := by
  have put := (d.pool.reads_print depth).map fun pool (record : Document) => { record with pool }
  exact put

private theorem filledConsumers_reads {gap : List Char} (blank : Blank gap) (d : Document)
    {depth : Nat} (sorted : Sorted d.consumers)
    (plain : ∀ consumer ∈ d.consumers, Sorted consumer.2.arguments ∧
      ∀ argument ∈ consumer.2.arguments, argument.2.Plain depth) :
    (d.filledConsumers gap).Reads (depth + 3) := by
  have entries : Reads (Json.readMap ConsumerSettings.read (depth + 3))
      (d.filledConsumers gap).text d.consumers :=
    Json.reads_map blank fun consumer mem =>
      consumer.2.reads_print (plain consumer mem).1 (plain consumer mem).2
  have put := entries.map fun entries (record : Document) =>
    { record with consumers := Json.sortedByName entries }
  rw [sorted.sortedByName] at put
  exact put

/-- A document is read back, whatever blanks stand behind its commas and colons. -/
theorem parse_written {gap : List Char} (blank : Blank gap) (d : Document)
    (sorted : Sorted d.consumers)
    (plain : ∀ consumer ∈ d.consumers, Sorted consumer.2.arguments ∧
      ∀ argument ∈ consumer.2.arguments, argument.2.Plain 123) :
    parse (String.ofList (d.written gap)) = .ok d := by
  -- The document, the map of consumers, a consumer and its arguments take one of 127 levels each.
  have all : [d.filledPool, d.filledConsumers gap].map Filled.field = fields := rfl
  have reads : ∀ f ∈ [d.filledPool, d.filledConsumers gap], f.Reads 126 := by
    intro f mem
    obtain rfl | rfl := List.mem_pair.mp mem
    · exact d.filledPool_reads 125
    · exact d.filledConsumers_reads blank sorted plain
  have record : Reads (Json.readRecord "RabbitConfig" fields default Json.maxDepth)
      (d.written gap) d := Json.reads_record blank fields_distinct all reads
  rw [parse, read, String.toList_ofList, record.whole]
  rfl

/-- The settings of a pool and of one consumer, put into a document by their written forms, are
what the document gives back under the consumer's name. -/
theorem parse_single {gap : List Char} (blank : Blank gap) (pool : PoolSettings) (name : String)
    (settings : ConsumerSettings) (sorted : Sorted settings.arguments)
    (plain : ∀ argument ∈ settings.arguments, argument.2.Plain 123) :
    ∃ d, parse (String.ofList (Json.spacedObject gap [
        Json.spacedField gap "PoolConfig" pool.print,
        Json.spacedField gap "ConsumerConfigs" (Json.spacedObject gap
          [Json.spacedField gap name settings.print])])) = .ok d ∧
      d.pool = pool ∧ d.consumer? name = some settings := by
  refine ⟨⟨pool, [(name, settings)]⟩, ?_, rfl, by simp [consumer?]⟩
  refine parse_written blank ⟨pool, [(name, settings)]⟩ (List.pairwise_singleton _ _) ?_
  intro consumer mem
  rw [List.mem_singleton.mp mem]
  exact ⟨sorted, plain⟩

/-- Settings with escapes in their texts and arguments that nest and reach the ends of the range. -/
def layered : ConsumerSettings :=
  { ConsumerSettings.ofNames "orders\\" "w\x01örker" with
    prefetchCount := 5
    maxInFlight := 18446744073709551615
    arguments := [
      ("x-limits", .list [.number (.integer (-9223372036854775808)),
        .object [("é", .null), ("😀", .text "\"\n")]]),
      ("x-priority", .number (.integer 18446744073709551615))] }

theorem parse_single_layered :
    Blank [' '] ∧ Sorted layered.arguments ∧
      (∀ argument ∈ layered.arguments, argument.2.Plain 123) ∧
      ∃ d, parse (String.ofList (Json.spacedObject [' '] [
          Json.spacedField [' '] "PoolConfig" (PoolSettings.mk 50 65536).print,
          Json.spacedField [' '] "ConsumerConfigs" (Json.spacedObject [' ']
            [Json.spacedField [' '] "\tüber" layered.print])])) = .ok d ∧
        d.pool = ⟨50, 65536⟩ ∧ d.consumer? "\tüber" = some layered := by
  have blank : Blank [' '] := by simp [Blank, Json.isJsonBlank]
  have sorted : Sorted layered.arguments := by
    unfold Sorted layered
    decide
  have plain : ∀ argument ∈ layered.arguments, argument.2.Plain 123 := by
    intro argument mem
    obtain rfl | rfl := List.mem_pair.mp mem
    · refine .list fun item mem => ?_
      obtain rfl | rfl := List.mem_pair.mp mem
      · exact .integer (by decide) (by decide)
      · refine .object (by unfold Sorted; decide) fun field mem => ?_
        obtain rfl | rfl := List.mem_pair.mp mem
        · exact .null
        · exact .text _
    · exact .integer (by decide) (by decide)
  exact ⟨blank, sorted, plain, parse_single blank ⟨50, 65536⟩ "\tüber" layered sorted plain⟩

end Document

end Intake
