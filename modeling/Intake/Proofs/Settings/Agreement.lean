import Intake.Proofs.Json.Rejection
import Intake.Proofs.Settings.Draft
import Intake.Proofs.Settings.RoundTrip

/-!
# Both ways of loading agree

What a draft gives can be put into variables or into a document, there in any order of the fields.
Both are loaded to the same settings, or neither is loaded: they share their defaults and the ranges
of their numbers.
-/

namespace Intake

open Json (Blank Reads Rejects Filled)

theorem Setting.jsonField_name {σ : Type} (setting : Setting σ) :
    setting.jsonField.name = setting.field := by
  obtain ⟨field, variableName, slot⟩ := setting
  cases slot <;> rfl

/-- Settings of a record that stand for themselves: each has a field of its own, putting in what is
there already changes nothing, and it does not matter which of two is put in first. -/
structure Setting.Independent {σ : Type} (table : List (Setting σ)) (default : σ) : Prop where
  distinct : (table.map Setting.field).Nodup
  fits : ∀ setting ∈ table, setting.slot.Fits default
  kept : ∀ setting ∈ table, ∀ record, setting.slot.copy record record = record
  swap : ∀ d : Draft, ∀ a ∈ table, ∀ b ∈ table, ∀ record,
    d.put (d.put record a) b = d.put (d.put record b) a

namespace Draft

variable {σ : Type} {d : Draft} {setting : Setting σ}

/-- How what is given for a setting is written in a document. -/
def written? (d : Draft) (setting : Setting σ) : Option (List Char) :=
  match setting.slot with
  | .flag .. => (d.flags setting.field).map Json.printBoolean
  | .text .. => (d.texts setting.field).map fun text => Json.printText text.toList
  | .number .. => (d.numbers setting.field).map decimal

/-- What is given, as an object with a gap behind each of its commas and colons. -/
def print (d : Draft) (gap : List Char) (order : List (Setting σ)) : List Char :=
  Json.spacedObject gap (order.filterMap fun setting =>
    (d.written? setting).map (Json.spacedField gap setting.field))

/-! ## Fields -/

/-- The field of a setting that is given. -/
def filled? (d : Draft) (setting : Setting σ) : Option (Filled σ) :=
  (d.written? setting).map fun text =>
    { field := setting.jsonField, text, set := fun record => d.put record setting }

/-- What is not given is left as it is. -/
private theorem put_of_none (absent : d.written? setting = none) (record : σ) :
    d.put record setting = setting.slot.copy record record := by
  obtain ⟨field, variableName, slot⟩ := setting
  cases slot with
  | flag get set =>
    exact congrArg (fun b : Option Bool => set (b.getD _) record) (Option.map_eq_none_iff.mp absent)
  | text needed get set =>
    exact congrArg (fun t : Option String => set (t.getD _) record)
      (Option.map_eq_none_iff.mp absent)
  | number title bits get set =>
    exact congrArg (fun n : Option Nat => set (n.getD _) record) (Option.map_eq_none_iff.mp absent)

private theorem field_of_filled? {f : Filled σ} (filled : d.filled? setting = some f) :
    f.field = setting.jsonField := by
  obtain ⟨text, _, rfl⟩ := Option.map_eq_some_iff.mp filled
  rfl

private theorem print_eq (d : Draft) (gap : List Char) (order : List (Setting σ)) :
    d.print gap order =
      Json.spacedObject gap ((order.filterMap d.filled?).map (Filled.written gap)) := by
  rw [print, List.map_filterMap]
  refine congrArg (Json.spacedObject gap) (List.filterMap_congr fun setting _ => ?_)
  rw [filled?, Option.map_map]
  refine congrArg (fun f => (d.written? setting).map f) (funext fun text => ?_)
  rw [Function.comp_apply, Filled.written, setting.jsonField_name]

/-- A setting that is given within its range is read back as given. -/
private theorem reads_of_filled? {f : Filled σ} (filled : d.filled? setting = some f) {default : σ}
    (sized : setting.slot.Fits default) (fits : d.Fits setting) (depth : Nat) : f.Reads depth := by
  obtain ⟨text, written, rfl⟩ := Option.map_eq_some_iff.mp filled
  obtain ⟨field, variableName, slot⟩ := setting
  cases slot with
  | flag get set =>
    obtain ⟨b, given, rfl⟩ := Option.map_eq_some_iff.mp written
    have put : (fun record => d.put record ⟨field, variableName, .flag get set⟩) = set b := by
      funext record
      simp only [Draft.put, show d.flags field = some b from given, Option.getD_some]
    rw [put]
    exact (Json.reads_boolean b).map set
  | text needed get set =>
    obtain ⟨t, given, rfl⟩ := Option.map_eq_some_iff.mp written
    have put : (fun record => d.put record ⟨field, variableName, .text needed get set⟩) =
        set t := by
      funext record
      simp only [Draft.put, show d.texts field = some t from given, Option.getD_some]
    rw [put]
    exact (Json.reads_text t).map set
  | number title bits get set =>
    obtain ⟨n, given, rfl⟩ := Option.map_eq_some_iff.mp written
    have put : (fun record => d.put record ⟨field, variableName, .number title bits get set⟩) =
        set n := by
      funext record
      simp only [Draft.put, show d.numbers field = some n from given, Option.getD_some]
    rw [put]
    have size : 2 ^ bits ≤ 2 ^ 64 := Nat.pow_le_pow_right (by decide) sized.2
    exact (Json.reads_natural title (fits n given) size).map set

/-- A setting is given if it is out of its range, and is refused then. -/
private theorem rejects_of_not_fits (beyond : ¬ d.Fits setting) (depth : Nat) :
    ∃ f, d.filled? setting = some f ∧ f.Rejects depth := by
  obtain ⟨field, variableName, slot⟩ := setting
  cases slot with
  | flag get set => exact absurd trivial beyond
  | text needed get set => exact absurd trivial beyond
  | number title bits get set =>
    have large : ∃ n, d.numbers field = some n ∧ 2 ^ bits ≤ n := by
      simpa [Fits, Option.mem_def] using beyond
    obtain ⟨n, given, large⟩ := large
    have written : d.written? ⟨field, variableName, .number title bits get set⟩ =
        some (decimal n) := congrArg (Option.map decimal) given
    rw [filled?, written]
    exact ⟨_, rfl, (Json.rejects_natural title large).map set⟩

/-! ## Records -/

section

variable {table order : List (Setting σ)} {default : σ} {fields : List (Json.Field σ)}

private theorem field_of_mem_given (perm : order.Perm table)
    (known : table.map Setting.jsonField ⊆ fields)
    {f : Filled σ} (mem : f ∈ order.filterMap d.filled?) : f.field ∈ fields := by
  obtain ⟨setting, listed, filled⟩ := List.mem_filterMap.mp mem
  rw [field_of_filled? filled]
  exact known (List.mem_map_of_mem (perm.subset listed))

variable (independent : Setting.Independent table default) (perm : order.Perm table)

include independent

/-- Putting in only what is given comes to the same. -/
private theorem fill_given (listed : order ⊆ table) (record : σ) :
    Json.fill (order.filterMap d.filled?) record = d.settle order record := by
  induction order generalizing record with
  | nil => rfl
  | cons setting order ih =>
    have more := ih (List.subset_of_cons_subset listed)
    cases written : d.written? setting with
    | none =>
      have same : d.put record setting = record :=
        (put_of_none written record).trans (independent.kept setting (listed List.mem_cons_self) _)
      rw [List.filterMap_cons_none (by rw [filled?, written]; rfl), more, settle, settle,
        List.foldl_cons, same]
    | some text =>
      rw [List.filterMap_cons_some (by rw [filled?, written]; rfl)]
      exact more (d.put record setting)

include perm

/-- Settings can be put in in any order. -/
private theorem settle_perm (record : σ) : d.settle order record = d.settle table record :=
  perm.foldl_eq' (fun a memA b memB record =>
    independent.swap d a (perm.subset memA) b (perm.subset memB) record) record

variable {title : String} {gap : List Char}
  (blank : Blank gap) (distinct : (fields.map Json.Field.name).Nodup)
  (known : table.map Setting.jsonField ⊆ fields) (depth : Nat)

include blank distinct known

/-- A draft within its ranges, written as an object of its fields in any order, is read as it has
the settings. -/
theorem reads_print (inRange : d.InRange table) :
    Reads (Json.readRecord title fields default (depth + 1)) (d.print gap order)
      (d.settle table default) := by
  rw [print_eq, ← settle_perm independent perm, ← fill_given independent perm.subset]
  refine Json.reads_fields blank distinct (fun f mem => field_of_mem_given perm known mem) ?_ ?_
  · have own : order.Pairwise fun a b => a.field ≠ b.field :=
      List.pairwise_map.mp ((perm.map Setting.field).nodup_iff.mpr independent.distinct)
    refine List.pairwise_map.mpr (own.filterMap _ fun a b differ f filledA g filledB => ?_)
    rwa [field_of_filled? filledA, field_of_filled? filledB, a.jsonField_name, b.jsonField_name]
  · intro f mem
    obtain ⟨setting, listed, filled⟩ := List.mem_filterMap.mp mem
    have inTable := perm.subset listed
    exact reads_of_filled? filled (independent.fits setting inTable) (inRange setting inTable) depth

/-- A draft with a number out of its range is refused. -/
theorem rejects_print (beyond : ¬ d.InRange table) :
    Rejects (Json.readRecord title fields default (depth + 1)) (d.print gap order) := by
  rw [print_eq]
  refine Json.rejects_fields blank distinct (fun f mem => field_of_mem_given perm known mem) ?_ ?_
  · intro f mem
    obtain ⟨setting, listed, filled⟩ := List.mem_filterMap.mp mem
    have sized := independent.fits setting (perm.subset listed)
    by_cases fits : d.Fits setting
    · exact .inl (reads_of_filled? filled sized fits depth)
    · obtain ⟨g, filled', refused⟩ := rejects_of_not_fits fits depth
      exact .inr (Option.some.inj (filled'.symm.trans filled) ▸ refused)
  · obtain ⟨setting, listed, beyond⟩ : ∃ setting ∈ table, ¬ d.Fits setting := by
      simpa [InRange] using beyond
    obtain ⟨f, filled, refused⟩ := rejects_of_not_fits beyond depth
    exact ⟨f, List.mem_filterMap.mpr ⟨setting, perm.symm.subset listed, filled⟩, refused⟩

end

end Draft

/-! ## The settings of a pool -/

/-- A number that is given within a bound, or else one below it, is not cut down to the bound. -/
private theorem getD_mod {given : Option Nat} {default bound : Nat}
    (fits : ∀ n, given = some n → n < bound) (small : default < bound) :
    given.getD default % bound = given.getD default := by
  cases given with
  | none => exact Nat.mod_eq_of_lt small
  | some n => exact Nat.mod_eq_of_lt (fits n rfl)

namespace PoolSettings

theorem independent : Setting.Independent table default where
  distinct := by decide
  fits := fits default
  kept := by simp [table, Slot.copy]
  swap d := by simp [table, Draft.put]

/-- There is nothing that the environment has to give. -/
private theorem suffices_table (d : Draft) : d.Suffices table := by
  simp [Draft.Suffices, table, Setting.Needed]

/-- A draft within its ranges is what settings of a pool have that are made of it. -/
theorem taken_settle {d : Draft} (inRange : d.InRange table) :
    ∀ setting ∈ table, d.Taken default (d.settle table default) setting := by
  simp only [Draft.InRange, table, List.mem_cons, List.not_mem_nil, or_false, Draft.Fits,
    Option.mem_def, forall_eq_or_imp, Nat.reducePow, forall_eq] at inRange
  simp only [table, List.mem_cons, List.not_mem_nil, or_false, Draft.Taken, Draft.settle,
    List.foldl_cons, Draft.put, List.foldl_nil, forall_eq_or_imp, forall_eq, UInt16.toNat_ofNat',
    UInt32.toNat_ofNat', Nat.reducePow]
  exact ⟨getD_mod inRange.1 (UInt16.toNat_lt _), getD_mod inRange.2 (UInt32.toNat_lt _)⟩

end PoolSettings

/-! ## The settings of a consumer -/

namespace ConsumerSettings

theorem independent : Setting.Independent table default where
  distinct := by decide
  fits := fits default
  kept := by simp [table, Slot.copy]
  swap d := by simp [table, Draft.put]

/-- The name of the queue is all that the environment has to give. -/
private theorem suffices_table {d : Draft} (queue : (d.texts "QueueName").isSome) :
    d.Suffices table := by
  simpa [Draft.Suffices, table, Setting.Needed, Draft.text?] using queue

/-- A draft within its ranges is what settings of a consumer have that are made of it. -/
theorem taken_settle {d : Draft} (inRange : d.InRange table) :
    ∀ setting ∈ table, d.Taken default (d.settle table default) setting := by
  simp only [Draft.InRange, table, List.mem_cons, List.not_mem_nil, or_false, Draft.Fits,
    Option.mem_def, forall_eq_or_imp, Nat.reducePow, forall_eq, true_and] at inRange
  obtain ⟨count, size, messages, errors, errorPause, idlePause, inFlight⟩ := inRange
  simp only [table, List.mem_cons, List.not_mem_nil, or_false, Draft.Taken, Draft.settle,
    List.foldl_cons, Draft.put, List.foldl_nil, forall_eq_or_imp, forall_eq, UInt16.toNat_ofNat',
    UInt32.toNat_ofNat', UInt64.toNat_ofNat', Nat.reducePow, true_and]
  exact ⟨getD_mod count (UInt16.toNat_lt _), getD_mod size (UInt32.toNat_lt _),
    getD_mod messages (UInt64.toNat_lt _), getD_mod errors (UInt64.toNat_lt _),
    getD_mod errorPause (UInt64.toNat_lt _), getD_mod idlePause (UInt64.toNat_lt _),
    getD_mod inFlight (UInt64.toNat_lt _)⟩

end ConsumerSettings

/-! ## Documents -/

namespace Draft

variable {d : Draft} {gap : List Char} {pool : List (Setting PoolSettings)}
  {consumer : List (Setting ConsumerSettings)}

/-- The consumer that is given, as a map of one entry. -/
def printConsumers (d : Draft) (gap : List Char) (key : String)
    (consumer : List (Setting ConsumerSettings)) : List Char :=
  Json.spacedObject gap [Json.spacedField gap key (d.print gap consumer)]

/-- A document of the settings of a pool and of one consumer, the fields in the given orders. -/
def printDocument (d : Draft) (gap : List Char) (key : String) (pool : List (Setting PoolSettings))
    (consumer : List (Setting ConsumerSettings)) : List Char :=
  Json.spacedObject gap [
    Json.spacedField gap "PoolConfig" (d.print gap pool),
    Json.spacedField gap "ConsumerConfigs" (d.printConsumers gap key consumer)]

/-- The pool as the document has it. -/
def filledPool (d : Draft) (gap : List Char) (pool : List (Setting PoolSettings)) :
    Filled Document where
  field := Document.poolField
  text := d.print gap pool
  set record := { record with pool := d.settle PoolSettings.table .default }

/-- The consumer as the document has it. -/
def filledConsumers (d : Draft) (gap : List Char) (key : String)
    (consumer : List (Setting ConsumerSettings)) : Filled Document where
  field := Document.consumersField
  text := d.printConsumers gap key consumer
  set record :=
    { record with consumers := [(key, d.settle ConsumerSettings.table .default)] }

private theorem filledPool_reads (blank : Blank gap) (perm : pool.Perm PoolSettings.table)
    (depth : Nat)
    (inRange : d.InRange PoolSettings.table) : (d.filledPool gap pool).Reads (depth + 1) := by
  have read : Reads (PoolSettings.read (depth + 1)) (d.print gap pool) _ :=
    reads_print PoolSettings.independent perm blank PoolSettings.fields_distinct
      (List.Subset.refl _) depth inRange
  exact read.map fun pool (record : Document) => { record with pool }

private theorem filledPool_rejects (blank : Blank gap) (perm : pool.Perm PoolSettings.table)
    (depth : Nat)
    (beyond : ¬ d.InRange PoolSettings.table) : (d.filledPool gap pool).Rejects (depth + 1) := by
  have refused : Rejects (PoolSettings.read (depth + 1)) (d.print gap pool) :=
    rejects_print PoolSettings.independent perm blank PoolSettings.fields_distinct
      (List.Subset.refl _) depth beyond
  exact refused.map fun pool (record : Document) => { record with pool }

private theorem filledConsumers_reads (blank : Blank gap) (key : String)
    (perm : consumer.Perm ConsumerSettings.table) (depth : Nat)
    (inRange : d.InRange ConsumerSettings.table) :
    (d.filledConsumers gap key consumer).Reads (depth + 2) := by
  have read : Reads (ConsumerSettings.read (depth + 1)) (d.print gap consumer)
      (d.settle ConsumerSettings.table .default) :=
    reads_print ConsumerSettings.independent perm blank ConsumerSettings.fields_distinct
      (List.subset_append_left _ _) depth inRange
  have entries : Reads (Json.readMap ConsumerSettings.read (depth + 2))
      (d.printConsumers gap key consumer) [(key, d.settle ConsumerSettings.table .default)] := by
    refine @Json.reads_map _ gap blank ConsumerSettings.read (depth + 1)
      (fun _ => d.print gap consumer) [(key, d.settle ConsumerSettings.table .default)]
      fun entry mem => ?_
    rw [List.mem_singleton.mp mem]
    exact read
  exact entries.map fun entries (record : Document) =>
    { record with consumers := Json.sortedByName entries }

private theorem filledConsumers_rejects (blank : Blank gap) (key : String)
    (perm : consumer.Perm ConsumerSettings.table) (depth : Nat)
    (beyond : ¬ d.InRange ConsumerSettings.table) :
    (d.filledConsumers gap key consumer).Rejects (depth + 2) := by
  have refused : Rejects (ConsumerSettings.read (depth + 1)) (d.print gap consumer) :=
    rejects_print ConsumerSettings.independent perm blank ConsumerSettings.fields_distinct
      (List.subset_append_left _ _) depth beyond
  exact (Json.rejects_map blank key refused).map fun entries (record : Document) =>
    { record with consumers := Json.sortedByName entries }

section

variable (blank : Blank gap) (key : String) (poolOrder : pool.Perm PoolSettings.table)
  (consumerOrder : consumer.Perm ConsumerSettings.table)

include blank poolOrder consumerOrder

/-- The document is read as the draft has the settings. -/
theorem parse_document (poolInRange : d.InRange PoolSettings.table)
    (consumerInRange : d.InRange ConsumerSettings.table) :
    Document.parse (String.ofList (d.printDocument gap key pool consumer)) =
      .ok ⟨d.settle PoolSettings.table .default,
        [(key, d.settle ConsumerSettings.table .default)]⟩ := by
  -- The document, the map of consumers and a consumer take one of 127 levels each.
  have reads : ∀ f ∈ [d.filledPool gap pool, d.filledConsumers gap key consumer], f.Reads 126 := by
    intro f mem
    obtain rfl | rfl := List.mem_pair.mp mem
    · exact filledPool_reads blank poolOrder 125 poolInRange
    · exact filledConsumers_reads blank key consumerOrder 124 consumerInRange
  have record : Reads (Json.readRecord "RabbitConfig" Document.fields .default Json.maxDepth)
      (d.printDocument gap key pool consumer) _ :=
    Json.reads_record blank Document.fields_distinct rfl reads
  rw [Document.parse, Document.read, String.toList_ofList, record.whole]
  rfl

/-- The document is refused if a number is out of its range. -/
theorem parse_document_error
    (beyond : ¬ (d.InRange PoolSettings.table ∧ d.InRange ConsumerSettings.table)) :
    ∃ fault,
      Document.parse (String.ofList (d.printDocument gap key pool consumer)) = .error fault := by
  have known : ∀ f ∈ [d.filledPool gap pool, d.filledConsumers gap key consumer],
      f.field ∈ Document.fields := by
    intro f mem
    obtain rfl | rfl := List.mem_pair.mp mem
    · exact List.mem_cons_self
    · exact List.mem_cons_of_mem _ List.mem_cons_self
  have each : ∀ f ∈ [d.filledPool gap pool, d.filledConsumers gap key consumer],
      f.Reads 126 ∨ f.Rejects 126 := by
    intro f mem
    obtain rfl | rfl := List.mem_pair.mp mem
    · by_cases inRange : d.InRange PoolSettings.table
      · exact .inl (filledPool_reads blank poolOrder 125 inRange)
      · exact .inr (filledPool_rejects blank poolOrder 125 inRange)
    · by_cases inRange : d.InRange ConsumerSettings.table
      · exact .inl (filledConsumers_reads blank key consumerOrder 124 inRange)
      · exact .inr (filledConsumers_rejects blank key consumerOrder 124 inRange)
  have refused : ∃ f ∈ [d.filledPool gap pool, d.filledConsumers gap key consumer],
      f.Rejects 126 := by
    obtain outside | outside := not_and_or.mp beyond
    · exact ⟨_, List.mem_cons_self, filledPool_rejects blank poolOrder 125 outside⟩
    · exact ⟨_, List.mem_cons_of_mem _ List.mem_cons_self,
        filledConsumers_rejects blank key consumerOrder 124 outside⟩
  have record : Rejects (Json.readRecord "RabbitConfig" Document.fields .default Json.maxDepth)
      (d.printDocument gap key pool consumer) :=
    Json.rejects_fields blank Document.fields_distinct known each refused
  obtain ⟨problem, wrong⟩ := record.whole
  rw [Document.parse, Document.read, String.toList_ofList, wrong]
  exact ⟨_, rfl⟩

end

/-! ## Agreement -/

/-- Some settings with the largest numbers of their ranges, and a name that needs escapes. -/
def edges : Draft where
  flags field := [("Enabled", false), ("AutoAck", true)].lookup field
  texts field := [("QueueName", "\t\"órders\" 😀"), ("ConsumerName", "")].lookup field
  numbers field := [("GlobalQosSize", 4294967295), ("QosCountOverride", 65535),
    ("MessageBuffer", 0), ("MaxInFlight", 18446744073709551615)].lookup field

/-- The same, but for one number that is too large by one. -/
def overEdges : Draft :=
  { edges with numbers := fun field => [("QosCountOverride", 65536)].lookup field }

example : overEdges.environment.values = [
    ("AMQP_CONSUMER_ENABLED", Bytes.ofText "false"),
    ("AMQP_QUEUE_NAME", Bytes.ofText "\t\"órders\" 😀"), ("AMQP_CONSUMER_NAME", Bytes.ofText ""),
    ("AMQP_AUTO_ACK", Bytes.ofText "true"), ("AMQP_QOS_COUNT", Bytes.ofText "65536")] :=
  rfl

example : overEdges.print [' '] (ConsumerSettings.table.drop 3) =
    "\x7b\"AutoAck\": true, \"QosCountOverride\": 65536\x7d".toList := by
  decide +kernel

/-- Nothing but the name of a queue, and a number for the pool that is too large by one. -/
def overPool : Draft where
  flags _ := none
  texts field := [("QueueName", "orders")].lookup field
  numbers field := [("GlobalQosCount", 65536)].lookup field

end Draft

end Intake
