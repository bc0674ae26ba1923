import Intake.Environment
import Intake.Settings.Table

/-!
# Settings from environment variables

Each setting has a variable. Variables are looked at in the order of the table, and the first fault
is the one reported; a setting whose variable is unset keeps its default.
-/

namespace Intake

/-- Put the value of a setting's variable in its place. -/
def Setting.load {σ : Type} (env : Environment) (record : σ) (setting : Setting σ) :
    Except VariableFault σ :=
  match setting.slot with
  | .flag get set => (env.flagOr setting.variableName (get record)).map fun b => set b record
  | .text true _ set => (env.required setting.variableName).map fun t => set t record
  | .text false get set => .ok (set (env.textOr setting.variableName (get record)) record)
  | .number _ bits get set =>
    (env.readOr setting.variableName (get record) (Environment.readNatural (Nat.pow 2 bits))).map
      fun n => set n record

/-- The settings of a consumer given by variables. -/
def ConsumerSettings.load (env : Environment) : Except VariableFault ConsumerSettings :=
  table.foldlM (Setting.load env) default

/-- The settings of a pool given by variables. -/
def PoolSettings.load (env : Environment) : Except VariableFault PoolSettings :=
  table.foldlM (Setting.load env) default

end Intake
