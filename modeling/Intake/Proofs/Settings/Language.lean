import Intake.Proofs.Settings.Agreement
import Intake.Proofs.Text.Spelling

/-!
# The language of variables

Settings are loaded from variables exactly if each variable that is set spells a value of its
setting and those that are needed are set. The settings then have what the variables spell, and the
defaults for those that are unset. Otherwise the fault names the first variable, in the order of the
settings, that is to blame.
-/

namespace Intake

open Text (SpellsTruth SpellsNumber)

section

variable {σ : Type}

namespace Setting

/-- The variable of the setting can be loaded: it spells a value of the setting, or it is unset and
is not needed. -/
def Accepted (env : Environment) (setting : Setting σ) : Prop :=
  match setting.slot with
  | .flag .. => ∀ text, env.text? setting.variableName = some text → ∃ b, SpellsTruth text b
  | .text needed .. => needed = true → (env.text? setting.variableName).isSome
  | .number _ bits .. => ∀ text, env.text? setting.variableName = some text →
      ∃ n, SpellsNumber text n ∧ n < 2 ^ bits

/-- What the record has for the setting is what its variable spells, or the default if that is
unset. -/
def Loaded (env : Environment) (default record : σ) (setting : Setting σ) : Prop :=
  match setting.slot with
  | .flag get _ =>
    match env.text? setting.variableName with
    | some text => SpellsTruth text (get record)
    | none => get record = get default
  | .text _ get _ => get record = (env.text? setting.variableName).getD (get default)
  | .number _ _ get _ =>
    match env.text? setting.variableName with
    | some text => SpellsNumber text (get record)
    | none => get record = get default

/-- The fault names the variable of the setting. -/
def Blamed (fault : VariableFault) (setting : Setting σ) : Prop :=
  match setting.slot with
  | .text .. => fault = .missing setting.variableName
  | _ => ∃ details, fault = .unreadable setting.variableName details

end Setting

/-- What comes of loading the settings of a table: a record that has what the variables spell, or
the fault of the first of them that cannot be loaded. -/
def Environment.Loads (env : Environment) (table : List (Setting σ)) (default : σ) :
    Except VariableFault σ → Prop
  | .ok record =>
    ∀ setting ∈ table, setting.Accepted env ∧ setting.Loaded env default record
  | .error fault =>
    ∃ before setting after, table = before ++ setting :: after ∧
      (∀ earlier ∈ before, earlier.Accepted env) ∧ ¬ setting.Accepted env ∧ setting.Blamed fault

private theorem Environment.Loads.exists_ok_iff {env : Environment} {table : List (Setting σ)}
    {default : σ} {loaded : Except VariableFault σ} (loads : env.Loads table default loaded) :
    (∃ record, loaded = .ok record) ↔ ∀ setting ∈ table, setting.Accepted env := by
  cases loaded with
  | ok record => exact iff_of_true ⟨record, rfl⟩ fun setting mem => (loads setting mem).1
  | error fault =>
    obtain ⟨before, setting, after, rfl, _, wrong, _⟩ := loads
    exact iff_of_false nofun fun all => wrong (all setting (by simp))

namespace Environment

/-- The variable spells a whole number below the bound, or it is unset. -/
def SpellsBelow (env : Environment) (key : String) (bound : Nat) : Prop :=
  ∀ text, env.text? key = some text → ∃ n, SpellsNumber text n ∧ n < bound

/-- The number is what the variable spells, or zero if that is unset. -/
def SpellsOrZero (env : Environment) (key : String) (n : Nat) : Prop :=
  match env.text? key with
  | some text => SpellsNumber text n
  | none => n = 0

end Environment

/-! ## Variables as drafts -/

/-- The truth value that the variable of a setting spells. -/
def Environment.flag? (env : Environment) (setting : Setting σ) : Option Bool :=
  (env.text? setting.variableName).bind fun text => (readFlag (Text.trim text.toList)).toOption

/-- The number within the range of a setting that its variable spells. -/
def Environment.number? (env : Environment) (setting : Setting σ) : Option Nat :=
  match setting.slot with
  | .number _ bits .. => (env.text? setting.variableName).bind fun text =>
    (readNatural (2 ^ bits) (Text.trim text.toList)).toOption
  | _ => none

/-- What the variables of a table spell. -/
def Draft.ofVariables (env : Environment) (table : List (Setting σ)) : Draft where
  flags field := (table.find? (·.field == field)).bind env.flag?
  texts field := (table.find? (·.field == field)).bind fun setting => env.text? setting.variableName
  numbers field := (table.find? (·.field == field)).bind env.number?

section

variable {α : Type} {Spells : String → α → Prop} {read : List Char → Except String α}
  (spells : ∀ {text value}, read (Text.trim text.toList) = .ok value ↔ Spells text value)

include spells

/-- A variable is read as the value that it spells, or as the default if it is unset; if it spells
none, it is named in the fault. -/
private theorem Environment.readOr_cases (env : Environment) (key : String) (default : α) :
    ((∀ text, env.text? key = some text → ∃ value, Spells text value) ∧
      env.readOr key default read = .ok (((env.text? key).bind fun text =>
        (read (Text.trim text.toList)).toOption).getD default)) ∨
      ((¬ ∀ text, env.text? key = some text → ∃ value, Spells text value) ∧
        ∃ details, env.readOr key default read = .error (.unreadable key details)) := by
  rw [readOr]
  cases env.text? key with
  | none => exact .inl ⟨fun _ same => (by cases same), rfl⟩
  | some text =>
    dsimp only [Option.bind_some]
    cases taken : read (Text.trim text.toList) with
    | ok value =>
      refine .inl ⟨?_, rfl⟩
      rintro _ ⟨⟩
      exact ⟨value, spells.mp taken⟩
    | error details =>
      refine .inr ⟨fun all => ?_, details, rfl⟩
      obtain ⟨value, spelled⟩ := all text rfl
      cases taken.symm.trans (spells.mpr spelled)

/-- What is read of a variable that spells a value is that value. -/
private theorem Environment.spelled_of_read {env : Environment} {key : String} {default value : α}
    (accepted : ∀ text, env.text? key = some text → ∃ value, Spells text value)
    (given : value = ((env.text? key).bind fun text =>
      (read (Text.trim text.toList)).toOption).getD default) :
    (∀ text, env.text? key = some text → Spells text value) ∧
      (env.text? key = none → value = default) := by
  refine ⟨fun text held => ?_, fun unset => ?_⟩
  · obtain ⟨other, spelled⟩ := accepted text held
    rw [held, Option.bind_some, spells.mpr spelled] at given
    exact given ▸ spelled
  · rw [unset] at given
    exact given

end

namespace Draft

variable (env : Environment) {table : List (Setting σ)} {setting : Setting σ}

section

variable (distinct : (table.map Setting.field).Nodup) (mem : setting ∈ table)

include distinct mem

private theorem flags_ofVariables :
    (ofVariables env table).flags setting.field = env.flag? setting := by
  simp only [ofVariables, Json.find?_key distinct mem, Option.bind_some]

private theorem texts_ofVariables :
    (ofVariables env table).texts setting.field = env.text? setting.variableName := by
  simp only [ofVariables, Json.find?_key distinct mem, Option.bind_some]

private theorem numbers_ofVariables :
    (ofVariables env table).numbers setting.field = env.number? setting := by
  simp only [ofVariables, Json.find?_key distinct mem, Option.bind_some]

end

/-- What variables spell is within the ranges of their settings. -/
private theorem inRange_ofVariables (distinct : (table.map Setting.field).Nodup) :
    (ofVariables env table).InRange table := by
  intro setting mem
  have number := numbers_ofVariables env distinct mem
  obtain ⟨field, variableName, slot⟩ := setting
  cases slot with
  | flag get set => exact trivial
  | text needed get set => exact trivial
  | number title bits get set =>
    intro n given
    rw [Option.mem_def, number] at given
    obtain ⟨text, _, read⟩ := Option.bind_eq_some_iff.mp given
    cases taken : Environment.readNatural (2 ^ bits) (Text.trim text.toList) with
    | ok m =>
      rw [taken] at read
      cases read
      exact ((Environment.readNatural_trim_eq_ok_iff (Nat.two_pow_pos bits)).mp taken).2
    | error details =>
      rw [taken] at read
      cases read

end Draft

/-! ## Loading -/

section

variable (env : Environment) {table : List (Setting σ)}
  (distinct : (table.map Setting.field).Nodup)

include distinct

/-- A setting is loaded as its variable spells it, or its variable is blamed. -/
theorem Setting.load_cases {setting : Setting σ} (mem : setting ∈ table) (record : σ) :
    (setting.Accepted env ∧
        setting.load env record = .ok ((Draft.ofVariables env table).put record setting)) ∨
      (¬ setting.Accepted env ∧
        ∃ fault, setting.load env record = .error fault ∧ setting.Blamed fault) := by
  have flag := Draft.flags_ofVariables env distinct mem
  have text := Draft.texts_ofVariables env distinct mem
  have number := Draft.numbers_ofVariables env distinct mem
  obtain ⟨field, variableName, slot⟩ := setting
  cases slot with
  | flag get set =>
    dsimp only [Environment.flag?, Setting.Accepted, Setting.load, Setting.Blamed, Draft.put]
      at flag ⊢
    rw [flag, Environment.flagOr]
    obtain ⟨accepted, read⟩ | ⟨refused, details, read⟩ :=
      env.readOr_cases Environment.readFlag_trim_eq_ok_iff variableName (get record)
    · rw [read]
      exact .inl ⟨accepted, rfl⟩
    · rw [read]
      exact .inr ⟨refused, _, rfl, details, rfl⟩
  | text needed get set =>
    dsimp only [Setting.Accepted, Setting.load, Setting.Blamed, Draft.put] at text ⊢
    rw [text]
    cases needed with
    | false => exact .inl ⟨fun needed => (by cases needed), rfl⟩
    | true =>
      dsimp only
      rw [Environment.required]
      cases held : env.text? variableName with
      | some text => exact .inl ⟨fun _ => rfl, rfl⟩
      | none => exact .inr ⟨fun accepted => absurd (accepted rfl) Bool.false_ne_true, _, rfl, rfl⟩
  | number title bits get set =>
    dsimp only [Environment.number?, Setting.Accepted, Setting.load, Setting.Blamed, Draft.put]
      at number ⊢
    rw [number]
    obtain ⟨accepted, read⟩ | ⟨refused, details, read⟩ := env.readOr_cases
      (@Environment.readNatural_trim_eq_ok_iff (Nat.pow 2 bits) (Nat.two_pow_pos bits))
      variableName (get record)
    · rw [read]
      exact .inl ⟨accepted, rfl⟩
    · rw [read]
      exact .inr ⟨refused, _, rfl, details, rfl⟩

/-- Settings are loaded one after the other until the variable of one is to blame. -/
theorem Environment.foldlM_load_cases {order : List (Setting σ)} (listed : order ⊆ table)
    (record : σ) :
    ((∀ setting ∈ order, setting.Accepted env) ∧ order.foldlM (Setting.load env) record =
        .ok ((Draft.ofVariables env table).settle order record)) ∨
      ∃ before setting after, order = before ++ setting :: after ∧
        (∀ earlier ∈ before, earlier.Accepted env) ∧ ¬ setting.Accepted env ∧
        ∃ fault, order.foldlM (Setting.load env) record = .error fault ∧
          setting.Blamed fault := by
  induction order generalizing record with
  | nil => exact .inl ⟨nofun, rfl⟩
  | cons setting order ih =>
    rw [List.foldlM_cons]
    obtain ⟨accepted, loaded⟩ | ⟨refused, fault, failed, blamed⟩ :=
      Setting.load_cases env distinct (listed List.mem_cons_self) record
    · rw [loaded]
      obtain ⟨all, loaded⟩ | ⟨before, other, after, rfl, fine, refused, fault, failed, blamed⟩ :=
        ih (List.subset_of_cons_subset listed)
          ((Draft.ofVariables env table).put record setting)
      · exact .inl ⟨List.forall_mem_cons.mpr ⟨accepted, all⟩, loaded⟩
      · exact .inr ⟨setting :: before, other, after, rfl,
          List.forall_mem_cons.mpr ⟨accepted, fine⟩, refused, fault, failed, blamed⟩
    · rw [failed]
      exact .inr ⟨[], setting, order, rfl, nofun, refused, fault, rfl, blamed⟩

/-- A setting that has what is given for it has what its variable spells. -/
private theorem Setting.loaded_of_taken {default record : σ} {setting : Setting σ}
    (mem : setting ∈ table) (accepted : setting.Accepted env)
    (taken : (Draft.ofVariables env table).Taken default record setting) :
    setting.Loaded env default record := by
  have flag := Draft.flags_ofVariables env distinct mem
  have text := Draft.texts_ofVariables env distinct mem
  have number := Draft.numbers_ofVariables env distinct mem
  obtain ⟨field, variableName, slot⟩ := setting
  cases slot with
  | flag get set =>
    dsimp only [Setting.Accepted, Setting.Loaded, Draft.Taken, Environment.flag?]
      at flag accepted taken ⊢
    rw [flag] at taken
    obtain ⟨spelled, unset⟩ :=
      Environment.spelled_of_read Environment.readFlag_trim_eq_ok_iff accepted taken
    cases held : env.text? variableName with
    | none => exact unset held
    | some text => exact spelled text held
  | text needed get set =>
    dsimp only [Setting.Loaded, Draft.Taken] at text taken ⊢
    rwa [text] at taken
  | number title bits get set =>
    dsimp only [Setting.Accepted, Setting.Loaded, Draft.Taken, Environment.number?]
      at number accepted taken ⊢
    rw [number] at taken
    obtain ⟨spelled, unset⟩ := Environment.spelled_of_read
      (Environment.readNatural_trim_eq_ok_iff (Nat.two_pow_pos bits)) accepted taken
    cases held : env.text? variableName with
    | none => exact unset held
    | some text => exact (spelled text held).1

/-- Loading comes to what the variables spell if that is what their settings, put in their places,
make of the default. -/
theorem Environment.loads_of_taken {default : σ}
    (taken : ∀ d : Draft, d.InRange table →
      ∀ setting ∈ table, d.Taken default (d.settle table default) setting) :
    env.Loads table default (table.foldlM (Setting.load env) default) := by
  obtain ⟨all, loaded⟩ | ⟨before, setting, after, cut, fine, refused, fault, failed, blamed⟩ :=
    env.foldlM_load_cases distinct (List.Subset.refl table) default
  · rw [loaded]
    intro setting mem
    refine ⟨all setting mem, Setting.loaded_of_taken env distinct mem (all setting mem) ?_⟩
    exact taken _ (Draft.inRange_ofVariables env distinct) setting mem
  · rw [failed]
    exact ⟨before, setting, after, cut, fine, refused, blamed⟩

end

end

/-! ## The settings of a pool and of a consumer -/

private theorem PoolSettings.loads_load (env : Environment) :
    env.Loads table default (PoolSettings.load env) :=
  env.loads_of_taken independent.distinct fun _ => taken_settle

private theorem ConsumerSettings.loads_load (env : Environment) :
    env.Loads table default (ConsumerSettings.load env) :=
  env.loads_of_taken independent.distinct fun _ => taken_settle

/-- A fault of a variable that is missing is one of a setting that is needed. -/
private theorem Setting.needed_of_missing {σ : Type} {env : Environment} {setting : Setting σ}
    {key : String} (refused : ¬ setting.Accepted env) (blamed : setting.Blamed (.missing key)) :
    setting.Needed ∧ key = setting.variableName := by
  obtain ⟨field, variableName, slot⟩ := setting
  cases slot with
  | flag get set => exact nomatch blamed.choose_spec
  | text needed get set =>
    refine ⟨?_, VariableFault.missing.inj blamed⟩
    cases needed with
    | false => exact absurd nofun refused
    | true => rfl
  | number title bits get set => exact nomatch blamed.choose_spec

/-- If a variable is missing, it is that of a setting of the table that is needed. -/
private theorem Environment.Loads.exists_needed {σ : Type} {env : Environment}
    {table : List (Setting σ)}
    {default : σ} {key : String} (loads : env.Loads table default (.error (.missing key))) :
    ∃ setting ∈ table, setting.Needed ∧ key = setting.variableName := by
  obtain ⟨before, setting, after, rfl, _, refused, blamed⟩ := loads
  exact ⟨setting, by simp, Setting.needed_of_missing refused blamed⟩

/-- Settings that are loaded from variables have no arguments. -/
theorem ConsumerSettings.arguments_of_load {env : Environment} {s : ConsumerSettings}
    (loaded : ConsumerSettings.load env = .ok s) : s.arguments = [] := by
  obtain ⟨_, same⟩ | ⟨_, _, _, _, _, _, _, failed, _⟩ :=
    env.foldlM_load_cases independent.distinct (List.Subset.refl table) default
  · obtain rfl := Except.ok.inj (loaded.symm.trans same)
    rfl
  · cases loaded.symm.trans failed

/-- The name of the queue is the only variable that has to be set. -/
theorem ConsumerSettings.queue_of_missing {env : Environment} {key : String}
    (failed : ConsumerSettings.load env = .error (.missing key)) : key = "AMQP_QUEUE_NAME" := by
  have only : ∀ setting ∈ table, setting.Needed → setting.variableName = "AMQP_QUEUE_NAME" := by
    simp [table, Setting.Needed]
  obtain ⟨setting, mem, needed, rfl⟩ := (failed ▸ loads_load env).exists_needed
  exact only setting mem needed

private theorem forall_mem_pair {α : Type} {a b : α} {p : α → Prop} :
    (∀ c ∈ [a, b], p c) ↔ p a ∧ p b := by
  rw [List.forall_mem_cons, List.forall_mem_singleton]

/-- The first of the two variables of a pool is blamed if it spells no number of 16 bits, and else
the second, which spells none of 32 bits. -/
theorem PoolSettings.blamed_of_load {env : Environment} {fault : VariableFault}
    (failed : PoolSettings.load env = .error fault) :
    (¬ env.SpellsBelow "AMQP_GLOBAL_QOS_COUNT" (2 ^ 16) ∧
        ∃ details, fault = .unreadable "AMQP_GLOBAL_QOS_COUNT" details) ∨
      env.SpellsBelow "AMQP_GLOBAL_QOS_COUNT" (2 ^ 16) ∧
        ¬ env.SpellsBelow "AMQP_GLOBAL_QOS_SIZE" (2 ^ 32) ∧
        ∃ details, fault = .unreadable "AMQP_GLOBAL_QOS_SIZE" details := by
  obtain ⟨before, setting, after, cut, fine, refused, blamed⟩ := failed ▸ loads_load env
  -- What is before the setting to blame tells which of the two it is.
  match before with
  | [] =>
    cases cut
    exact .inl ⟨refused, blamed⟩
  | [_] =>
    cases cut
    exact .inr ⟨fine _ List.mem_cons_self, refused, blamed⟩
  | _ :: _ :: _ => simp [table] at cut

/-- An environment of some texts. -/
def Environment.ofTexts (entries : List (String × String)) : Environment :=
  ⟨entries.map fun entry => (entry.1, Bytes.ofText entry.2)⟩

private theorem Environment.text?_ofTexts (entries : List (String × String)) (key : String) :
    (ofTexts entries).text? key = entries.lookup key := by
  unfold text? ofTexts
  induction entries with
  | nil => rfl
  | cons entry entries ih =>
    rw [List.map_cons, List.lookup_cons, List.lookup_cons]
    cases key == entry.1 with
    | true => exact Bytes.text?_ofText entry.2
    | false => exact ih

/-- Values with white space around them, in mixed case, and with a sign and zeros in front. -/
def Environment.odd : Environment := .ofTexts [
  ("AMQP_QUEUE_NAME", "orders"), ("AMQP_QOS_COUNT", " +0065535\n"), ("AMQP_NO_WAIT", "\u3000YeS"),
  ("AMQP_GLOBAL_QOS_COUNT", "\t+065535"), ("AMQP_GLOBAL_QOS_SIZE", "04294967295 ")]

/-- Values that are not accepted, and no name of a queue. The second variable of a pool spells a
number that is too large by one. -/
def Environment.contrary : Environment := .ofTexts [
  ("AMQP_MAX_IN_FLIGHT", "-1"), ("AMQP_CONSUMER_ENABLED", "maybe"),
  ("AMQP_GLOBAL_QOS_COUNT", "65535"), ("AMQP_GLOBAL_QOS_SIZE", "4294967296")]

end Intake
