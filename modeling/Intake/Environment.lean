import Intake.Bytes
import Intake.Text.Blank
import Intake.Text.Number

/-!
# Environment variables

A variable whose value is not text counts as unset. Values that are read as something else than
text lose the white space at their ends first.
-/

namespace Intake

/-- The variables that are set: names and values. -/
structure Environment where
  values : List (String × Bytes)
deriving DecidableEq, Repr

/-- What can be wrong with a variable. -/
inductive VariableFault where
  | missing (key : String)
  | unreadable (key : String) (details : String)
deriving DecidableEq, Repr

def VariableFault.message : VariableFault → String
  | .missing key => "Environment variable '" ++ key ++ "' is required but not set"
  | .unreadable key details =>
    "Failed to parse environment variable '" ++ key ++ "': " ++ details

/-- The word for the kind of fault. -/
def VariableFault.kind : VariableFault → String
  | .missing _ => "missing_env_var"
  | .unreadable _ _ => "parse_error"

/-- The truth value of a small word, in any letter case. -/
def Text.flag? (s : List Char) : Option Bool :=
  let word := String.ofList s
  if word ∈ ["true", "1", "yes", "on"] then some true
  else if word ∈ ["false", "0", "no", "off"] then some false
  else none

namespace Environment

/-- The value of a variable. -/
def text? (env : Environment) (key : String) : Option String :=
  (env.values.lookup key).bind Bytes.text?

/-- The value of a variable that has to be set. -/
def required (env : Environment) (key : String) : Except VariableFault String :=
  match env.text? key with
  | some text => .ok text
  | none => .error (.missing key)

/-- The value of a variable, or what stands for it. -/
def textOr (env : Environment) (key default : String) : String := (env.text? key).getD default

/-- The value of a variable as `read` understands it, or what stands for it; the error of `read` is
the text of the fault. -/
def readOr {α : Type} (env : Environment) (key : String) (default : α)
    (read : List Char → Except String α) : Except VariableFault α :=
  match env.text? key with
  | none => .ok default
  | some text =>
    match read (Text.trim text.toList) with
    | .ok value => .ok value
    | .error details => .error (.unreadable key details)

/-- A truth value: `true/false`, `1/0`, `yes/no` or `on/off` in any letter case. -/
def readFlag (s : List Char) : Except String Bool :=
  let word := Text.lower s
  match Text.flag? word with
  | some value => .ok value
  | none => .error ("'" ++ String.ofList word ++ "' is not a boolean")

def flagOr (env : Environment) (key : String) (default : Bool) : Except VariableFault Bool :=
  env.readOr key default readFlag

def readNatural (bound : Nat) (s : List Char) : Except String Nat :=
  (Text.natural bound s).mapError Text.NumberProblem.message

def readInteger (half : Nat) (s : List Char) : Except String Int :=
  (Text.integer half s).mapError Text.NumberProblem.message

/-- The words `true` and `false` only. -/
def readTruth (s : List Char) : Except String Bool :=
  if s = ['t', 'r', 'u', 'e'] then .ok true
  else if s = ['f', 'a', 'l', 's', 'e'] then .ok false
  else .error "provided string was not `true` or `false`"

end Environment

/-- Where a program runs. -/
inductive Stage where
  | development
  | production
deriving DecidableEq, Repr

/-- Production when the variable `APP_ENV` says so in any letter case, else development. -/
def Environment.stage (env : Environment) : Stage :=
  if Text.lower (env.textOr "APP_ENV" "development").toList =
      ['p', 'r', 'o', 'd', 'u', 'c', 't', 'i', 'o', 'n'] then .production
  else .development

def Stage.name : Stage → String
  | .development => "Development"
  | .production => "Production"

end Intake
