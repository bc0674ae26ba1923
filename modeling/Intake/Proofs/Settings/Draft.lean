import Intake.Proofs.Text.Variables
import Intake.Settings.Variables

/-!
# Drafts of settings

A draft gives values to some of the settings: truth values, texts, and whole numbers however large.
Variables that hold what a draft gives are loaded just as it says if all of its numbers are within
the ranges of their settings; otherwise loading fails, and no number is cut down to its range.
-/

namespace Intake

/-- Values for some of the settings, by the names of their fields. -/
structure Draft where
  flags : String → Option Bool
  texts : String → Option String
  numbers : String → Option Nat

/-- The environment has to give the setting. -/
def Setting.Needed {σ : Type} (setting : Setting σ) : Prop :=
  match setting.slot with
  | .text needed _ _ => needed
  | _ => False

namespace Draft

variable {σ : Type}

/-- The text of a setting's variable. -/
def text? (d : Draft) (setting : Setting σ) : Option String :=
  match setting.slot with
  | .flag .. => (d.flags setting.field).map fun b => String.ofList (Json.printBoolean b)
  | .text .. => d.texts setting.field
  | .number .. => (d.numbers setting.field).map fun n => String.ofList (decimal n)

/-- A number that is given is within the range of its setting. -/
def Fits (d : Draft) (setting : Setting σ) : Prop :=
  match setting.slot with
  | .number _ bits _ _ => ∀ n ∈ d.numbers setting.field, n < 2 ^ bits
  | _ => True

instance (d : Draft) (setting : Setting σ) : Decidable (d.Fits setting) := by
  unfold Fits
  split <;> infer_instance

/-- All numbers that are given are within their ranges. -/
def InRange (d : Draft) (table : List (Setting σ)) : Prop := ∀ setting ∈ table, d.Fits setting

instance (d : Draft) (table : List (Setting σ)) : Decidable (d.InRange table) :=
  inferInstanceAs (Decidable (∀ setting ∈ table, d.Fits setting))

/-- The settings that the environment has to give are given. -/
def Suffices (d : Draft) (table : List (Setting σ)) : Prop :=
  ∀ setting ∈ table, setting.Needed → (d.text? setting).isSome

/-- The variables of the settings hold what the draft gives, and are unset if it gives nothing. -/
def Holds (d : Draft) (env : Environment) (table : List (Setting σ)) : Prop :=
  ∀ setting ∈ table, env.text? setting.variableName = d.text? setting

/-- What the record has for the setting is what is given for it, or else what the default has. -/
def Taken (d : Draft) (default record : σ) (setting : Setting σ) : Prop :=
  match setting.slot with
  | .flag get _ => get record = (d.flags setting.field).getD (get default)
  | .text _ get _ => get record = (d.texts setting.field).getD (get default)
  | .number _ _ get _ => get record = (d.numbers setting.field).getD (get default)

/-- What a loader gives: a record that has what is given if all of its numbers are in range, and a
failure otherwise. -/
def Loads (d : Draft) (table : List (Setting σ)) (default : σ) : Except VariableFault σ → Prop
  | .ok record => d.InRange table ∧ ∀ setting ∈ table, d.Taken default record setting
  | .error _ => ¬ d.InRange table

/-- Put what is given for the setting in its place. -/
def put (d : Draft) (record : σ) (setting : Setting σ) : σ :=
  match setting.slot with
  | .flag get set => set ((d.flags setting.field).getD (get record)) record
  | .text _ get set => set ((d.texts setting.field).getD (get record)) record
  | .number _ _ get set => set ((d.numbers setting.field).getD (get record)) record

/-- The settings that are given put in their places one after the other. -/
def settle (d : Draft) (table : List (Setting σ)) (record : σ) : σ := table.foldl d.put record

variable {d : Draft} {env : Environment} {setting : Setting σ}

theorem Loads.exists_ok {table : List (Setting σ)} {default : σ} {loaded : Except VariableFault σ}
    (loads : d.Loads table default loaded) (inRange : d.InRange table) :
    ∃ record, loaded = .ok record := by
  cases loaded with
  | ok record => exact ⟨record, rfl⟩
  | error fault => exact absurd inRange loads

theorem Loads.exists_error {table : List (Setting σ)} {default : σ}
    {loaded : Except VariableFault σ} (loads : d.Loads table default loaded)
    (beyond : ¬ d.InRange table) : ∃ fault, loaded = .error fault := by
  cases loaded with
  | ok record => exact absurd loads.1 beyond
  | error fault => exact ⟨fault, rfl⟩

/-! ## Loading from variables -/

/-- A setting is loaded as the draft has it, or fails. -/
private theorem load_setting (holds : env.text? setting.variableName = d.text? setting)
    (given : setting.Needed → (d.text? setting).isSome) (record : σ) :
    setting.load env record =
      if d.Fits setting then .ok (d.put record setting)
      else .error (.unreadable setting.variableName Text.NumberProblem.tooLarge.message) := by
  obtain ⟨field, variableName, slot⟩ := setting
  cases slot with
  | flag get set =>
    rw [if_pos (show d.Fits ⟨field, variableName, .flag get set⟩ from trivial)]
    change (env.flagOr variableName (get record)).map _ = _
    rw [Environment.flagOr_of_written holds]
    rfl
  | text needed get set =>
    rw [if_pos (show d.Fits ⟨field, variableName, .text needed get set⟩ from trivial)]
    cases needed with
    | true =>
      obtain ⟨text, written⟩ := Option.isSome_iff_exists.mp (given rfl)
      have put : d.put record ⟨field, variableName, .text true get set⟩ = set text record := by
        simp only [Draft.put, show d.texts field = some text from written, Option.getD_some]
      change (env.required variableName).map _ = _
      rw [put, Environment.required, holds, written]
      rfl
    | false =>
      change Except.ok (set (env.textOr variableName (get record)) record) = _
      rw [Environment.textOr, holds]
      rfl
  | number title bits get set =>
    change (env.readOr variableName (get record) (Environment.readNatural (Nat.pow 2 bits))).map _ =
      if ∀ n ∈ d.numbers field, n < 2 ^ bits then _ else _
    have read := Environment.readOr_natural_of_written holds (Nat.two_pow_pos bits) (get record)
    change env.readOr variableName _ (Environment.readNatural (Nat.pow 2 bits)) = _ at read
    rw [read]
    by_cases fits : ∀ n ∈ d.numbers field, n < 2 ^ bits
    · rw [if_pos fits, if_pos fits]
      rfl
    · rw [if_neg fits, if_neg fits]
      rfl

section

variable {table : List (Setting σ)} (holds : d.Holds env table) (given : d.Suffices table)

include holds given

/-- Variables that hold a draft whose numbers are in range are loaded as the draft has it. -/
theorem foldlM_load (inRange : d.InRange table) (record : σ) :
    table.foldlM (Setting.load env) record = .ok (d.settle table record) := by
  induction table generalizing record with
  | nil => rfl
  | cons setting table ih =>
    obtain ⟨held, holds⟩ := List.forall_mem_cons.mp holds
    obtain ⟨enough, given⟩ := List.forall_mem_cons.mp given
    obtain ⟨fits, inRange⟩ := List.forall_mem_cons.mp inRange
    rw [List.foldlM_cons, load_setting held enough record, if_pos fits]
    exact ih holds given inRange (d.put record setting)

/-- Variables that hold a draft with a number out of range are not loaded. -/
theorem foldlM_load_error (beyond : ¬ d.InRange table) (record : σ) :
    ∃ fault, table.foldlM (Setting.load env) record = .error fault := by
  induction table generalizing record with
  | nil => exact absurd (fun _ mem => nomatch mem) beyond
  | cons setting table ih =>
    obtain ⟨held, holds⟩ := List.forall_mem_cons.mp holds
    obtain ⟨enough, given⟩ := List.forall_mem_cons.mp given
    rw [List.foldlM_cons, load_setting held enough record]
    by_cases fits : d.Fits setting
    -- This setting is loaded, so the number that is out of range is given for a later one.
    · rw [if_pos fits]
      exact ih holds given (fun inRange => beyond (List.forall_mem_cons.mpr ⟨fits, inRange⟩)) _
    · rw [if_neg fits]
      exact ⟨_, rfl⟩

/-- Variables that hold a draft are loaded as it has the settings if its numbers are in range, and
are not loaded otherwise. -/
theorem load_cases (record : σ) :
    d.InRange table ∧ table.foldlM (Setting.load env) record = .ok (d.settle table record) ∨
      ¬ d.InRange table ∧ ∃ fault, table.foldlM (Setting.load env) record = .error fault := by
  by_cases inRange : d.InRange table
  · exact .inl ⟨inRange, foldlM_load holds given inRange record⟩
  · exact .inr ⟨inRange, foldlM_load_error holds given inRange record⟩

/-- Variables that hold a draft are loaded to what it gives if that is what its settings, put in
their places, make of the default. -/
theorem loads_of_taken {default : σ}
    (taken : d.InRange table →
      ∀ setting ∈ table, d.Taken default (d.settle table default) setting) :
    d.Loads table default (table.foldlM (Setting.load env) default) := by
  obtain ⟨inRange, loaded⟩ | ⟨beyond, fault, failed⟩ := load_cases holds given default
  · rw [loaded]
    exact ⟨inRange, taken inRange⟩
  · rw [failed]
    exact beyond

end

/-! ## An environment for a draft -/

/-- The variables of the settings that are given. -/
def entries (d : Draft) (table : List (Setting σ)) : List (String × Bytes) :=
  table.filterMap fun setting =>
    (d.text? setting).map fun text => (setting.variableName, Bytes.ofText text)

/-- The variables of all settings that are given, and no others. -/
def environment (d : Draft) : Environment :=
  ⟨d.entries PoolSettings.table ++ d.entries ConsumerSettings.table⟩

private theorem lookup_entries_of_notMem {table : List (Setting σ)} {key : String}
    (other : key ∉ table.map Setting.variableName) : (d.entries table).lookup key = none := by
  rw [List.lookup_eq_none_iff]
  intro entry mem
  obtain ⟨setting, listed, given⟩ := List.mem_filterMap.mp mem
  obtain ⟨text, _, rfl⟩ := Option.map_eq_some_iff.mp given
  rw [bne_iff_ne]
  rintro rfl
  exact other (List.mem_map_of_mem listed)

private theorem lookup_entries {table : List (Setting σ)}
    (distinct : (table.map Setting.variableName).Nodup) (mem : setting ∈ table) :
    (d.entries table).lookup setting.variableName =
      (d.text? setting).map Bytes.ofText := by
  induction table with
  | nil => cases mem
  | cons other table ih =>
    rw [List.map_cons, List.nodup_cons] at distinct
    obtain rfl | mem := List.mem_cons.mp mem
    · cases given : d.text? setting with
      | none =>
        rw [entries, List.filterMap_cons_none (by rw [given]; rfl)]
        exact lookup_entries_of_notMem distinct.1
      | some text =>
        rw [entries, List.filterMap_cons_some (by rw [given]; rfl), List.lookup_cons_self]
        rfl
    · have differs : (setting.variableName == other.variableName) = false :=
        beq_eq_false_iff_ne.mpr fun same => distinct.1 (same ▸ List.mem_map_of_mem mem)
      cases given : d.text? other with
      | none =>
        rw [entries, List.filterMap_cons_none (by rw [given]; rfl)]
        exact ih distinct.2 mem
      | some text =>
        rw [entries, List.filterMap_cons_some (by rw [given]; rfl), List.lookup_cons, differs]
        exact ih distinct.2 mem

/-- In the environment of a draft, the variables hold what it gives. -/
theorem holds_environment (d : Draft) :
    d.Holds d.environment PoolSettings.table ∧ d.Holds d.environment ConsumerSettings.table := by
  have pool : (PoolSettings.table.map Setting.variableName).Nodup := by decide
  have consumer : (ConsumerSettings.table.map Setting.variableName).Nodup := by decide
  have apart : ∀ key ∈ ConsumerSettings.table.map Setting.variableName,
      key ∉ PoolSettings.table.map Setting.variableName := by decide
  have spelled (given : Option String) : (given.map Bytes.ofText).bind Bytes.text? = given := by
    cases given with
    | none => rfl
    | some text => exact Bytes.text?_ofText text
  constructor
  · intro setting mem
    rw [Environment.text?, environment, List.lookup_append, lookup_entries pool mem]
    cases given : d.text? setting with
    | none =>
      have other : setting.variableName ∉ ConsumerSettings.table.map Setting.variableName :=
        fun shared => apart _ shared (List.mem_map_of_mem mem)
      rw [lookup_entries_of_notMem other]
      rfl
    | some text => exact Bytes.text?_ofText text
  · intro setting mem
    have other := apart _ (List.mem_map_of_mem mem)
    rw [Environment.text?, environment, List.lookup_append, lookup_entries_of_notMem other,
      Option.none_or, lookup_entries consumer mem, spelled]

end Draft

end Intake
