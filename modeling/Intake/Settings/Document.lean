import Intake.Bytes
import Intake.Settings.Table

/-!
# Configuration documents

A document holds the settings of a pool and those of any number of consumers by name. Of two
consumers with one name the last counts.
-/

namespace Intake

/-- A setting as a field of a record. -/
def Setting.jsonField {σ : Type} (setting : Setting σ) : Json.Field σ :=
  match setting.slot with
  | .flag get set =>
    ⟨setting.field, fun _ s => (Json.readBoolean s).map fun (b, s) => (set b, s),
      fun record => Json.printBoolean (get record)⟩
  | .text _ get set =>
    ⟨setting.field, fun _ s => (Json.readText s).map fun (t, s) => (set t, s),
      fun record => Json.printText (get record).toList⟩
  | .number title bits get set =>
    ⟨setting.field, fun _ s => (Json.readNatural title (Nat.pow 2 bits) s).map fun (n, s) => (set n, s),
      fun record => decimal (get record)⟩

namespace ConsumerSettings

/-- The field of the arguments for the broker. -/
def argumentsField : Json.Field ConsumerSettings where
  name := "Args"
  read depth s := (Json.readMap Json.readValue depth s).map fun (entries, s) =>
    (fun record => { record with arguments := Json.sortedByName entries }, s)
  print record := (Json.Value.object record.arguments).print

def fields : List (Json.Field ConsumerSettings) :=
  table.map Setting.jsonField ++ [argumentsField]

/-- Read the settings of a consumer; `depth` bounds how deep they nest. -/
def read (depth : Nat) : Json.Reader ConsumerSettings :=
  Json.readRecord "ConsumerConfig" fields default depth

/-- The settings of a consumer written by a text of their own. -/
def parse (text : String) : Except Json.Problem ConsumerSettings := do
  let (settings, rest) ← read Json.maxDepth text.toList
  Json.finish rest
  return settings

/-- The written form of the settings. -/
def print (s : ConsumerSettings) : List Char := Json.printRecord fields s

end ConsumerSettings

namespace PoolSettings

def fields : List (Json.Field PoolSettings) := table.map Setting.jsonField

/-- Read the settings of a pool; `depth` bounds how deep they nest. -/
def read (depth : Nat) : Json.Reader PoolSettings :=
  Json.readRecord "PoolConfig" fields default depth

/-- The settings of a pool written by a text of their own. -/
def parse (text : String) : Except Json.Problem PoolSettings := do
  let (settings, rest) ← read Json.maxDepth text.toList
  Json.finish rest
  return settings

/-- The written form of the settings. -/
def print (s : PoolSettings) : List Char := Json.printRecord fields s

end PoolSettings

/-- A whole configuration; the consumers are sorted by name. -/
structure Document where
  pool : PoolSettings
  consumers : List (String × ConsumerSettings)
deriving Repr, BEq, Inhabited

namespace Document

def default : Document := ⟨.default, []⟩

def poolField : Json.Field Document where
  name := "PoolConfig"
  read depth s := (PoolSettings.read depth s).map fun (pool, s) =>
    (fun record => { record with pool }, s)
  print record := record.pool.print

def consumersField : Json.Field Document where
  name := "ConsumerConfigs"
  read depth s := (Json.readMap ConsumerSettings.read depth s).map fun (entries, s) =>
    (fun record => { record with consumers := Json.sortedByName entries }, s)
  print record := Json.printObject
    (record.consumers.map fun entry => Json.printField entry.1 entry.2.print)

def fields : List (Json.Field Document) := [poolField, consumersField]

/-- The document of a text, or the first problem of it. -/
def read (text : String) : Except Json.Problem Document := do
  let (document, rest) ← Json.readRecord "RabbitConfig" fields default Json.maxDepth text.toList
  Json.finish rest
  return document

def parse (text : String) : Except Fault Document :=
  (read text).mapError fun problem =>
    .configuration ("invalid consumer configuration: " ++ problem.message)

/-- The written form of a document. -/
def print (d : Document) : List Char := Json.printRecord fields d

/-- The settings of the consumer with a name. -/
def consumer? (d : Document) (name : String) : Option ConsumerSettings := d.consumers.lookup name

/-- The consumers that should be started, sorted by name. -/
def enabled (d : Document) : List (String × ConsumerSettings) :=
  d.consumers.filter fun entry => entry.2.enabled

end Document

/-- What stands at a place where a document is looked for. -/
inductive Stored where
  | missing
  | directory
  | file (contents : Bytes)
deriving DecidableEq, Repr

/-- The document stored at a place; faults name the place by `path`. -/
def Document.load (path : String) (stored : Stored) : Except Fault Document :=
  let failed (why : String) : Except Fault Document :=
    .error (.configuration ("failed to read " ++ path ++ ": " ++ why))
  match stored with
  | .missing => failed "No such file or directory (os error 2)"
  | .directory => failed "Is a directory (os error 21)"
  | .file contents =>
    match contents.text? with
    | none => failed "stream did not contain valid UTF-8"
    | some text => parse text

end Intake
