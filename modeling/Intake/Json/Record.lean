import Intake.Json.Printer
import Intake.Json.Reader

/-!
# Records

A record is written as an object of its fields in their order. It is read from an object with the
fields in any order, each at most once and unknown ones passed over, or from a list of the fields
in their order. Fields that are not written keep the values of the record that reading starts from.
-/

namespace Intake

namespace Json

/-- A field of a record: its name, how its value is read and put in, and how it is written. The
number given to `read` is how many lists and objects may still be opened. -/
structure Field (σ : Type) where
  name : String
  read : Nat → Reader (σ → σ)
  print : σ → List Char

/-! ## Scalars -/

/-- The problem of a value that is not of the expected kind. -/
def mismatch (expected : String) (s : List Char) : Problem :=
  let wrong (found : Found) : Problem := .wrongKind found expected
  let word (rest : List Char) (letters : List Char) (found : Found) : Problem :=
    match readWord letters rest with
    | .error problem => problem
    | .ok _ => wrong found
  match skipBlanks s with
  | [] => .endInValue
  | 'n' :: s => word s ['u', 'l', 'l'] .null
  | 't' :: s => word s ['r', 'u', 'e'] (.boolean true)
  | 'f' :: s => word s ['a', 'l', 's', 'e'] (.boolean false)
  | '"' :: s =>
    match readChars s with
    | .error problem => problem
    | .ok (text, _) => wrong (.text text)
  | '[' :: _ => wrong .sequence
  | '\x7b' :: _ => wrong .map
  | c :: s =>
    if c = '-' || c.isDigit then
      match readNumber (c :: s) with
      | .error problem => problem
      | .ok (.integer n, _) => wrong (.integer n)
      | .ok (.real d, _) => wrong (.real d)
    else .noValue

/-- A truth value. -/
def readBoolean (s : List Char) : Except Problem (Bool × List Char) :=
  match skipBlanks s with
  | 't' :: rest => (readWord ['r', 'u', 'e'] rest).map fun rest => (true, rest)
  | 'f' :: rest => (readWord ['a', 'l', 's', 'e'] rest).map fun rest => (false, rest)
  | _ => .error (mismatch "a boolean" s)

/-- A text. -/
def readText (s : List Char) : Except Problem (String × List Char) :=
  match skipBlanks s with
  | '"' :: rest => (readChars rest).map fun (text, rest) => (String.ofList text, rest)
  | _ => .error (mismatch "a string" s)

/-- A whole number below `bound`, whose type is known by the name `expected`. -/
def readNatural (expected : String) (bound : Nat) (s : List Char) :
    Except Problem (Nat × List Char) :=
  match skipBlanks s with
  | [] => .error .endInValue
  | c :: rest =>
    if c = '-' || c.isDigit then
      match readNumber (c :: rest) with
      | .error problem => .error problem
      | .ok (.real d, _) => .error (.wrongKind (.real d) expected)
      | .ok (.integer n, rest) =>
        if 0 ≤ n ∧ n < bound then .ok (n.toNat, rest) else .error (.outOfRange n expected)
    else .error (mismatch expected s)

/-- An object whose entries are of one kind, in the order they are written. -/
def readMap {α : Type} (item : Nat → Reader α) (depth : Nat) :
    Reader (List (String × α)) := fun s =>
  match skipBlanks s with
  | '\x7b' :: rest =>
    match depth with
    | 0 => .error .tooDeep
    | depth + 1 => readEntries (item depth) (rest.length + 1) true rest
  | _ => .error (mismatch "a map" s)

/-! ## Records -/

variable {σ : Type}

/-- The field of a given name. -/
def field? (fields : List (Field σ)) (name : String) : Option (Field σ) :=
  fields.find? fun field => field.name == name

/-- The fields of a record written as an object, behind its opening brace. `seen` are the names of
the fields read so far. The number bounds the fields that are left. -/
def readNamed (fields : List (Field σ)) (depth : Nat) :
    Nat → Bool → List String → σ → Reader σ
  | 0, _, _, _, _ => .error .endInObject
  | n + 1, first, seen, record, s => do
    match ← nextName first s with
    | none => return (record, (skipBlanks s).drop 1)
    | some (name, s) =>
      let name := String.ofList name
      match field? fields name with
      | none =>
        let s ← skipColon s
        let s ← skipValue (s.length + 1) s
        readNamed fields depth n false seen record s
      | some field =>
        if name ∈ seen then throw (.repeatedField name)
        let s ← skipColon s
        let (set, s) ← field.read depth s
        readNamed fields depth n false (name :: seen) (set record) s

/-- The fields of a record written as a list, behind its opening bracket. -/
def readPositional (depth : Nat) : List (Field σ) → Bool → σ → Reader σ
  | [], _, record, s => (closeList s).map fun s => (record, s)
  | field :: fields, first, record, s => do
    match ← nextItem first s with
    | none => return (record, (skipBlanks s).drop 1)
    | some s =>
      let (set, s) ← field.read depth s
      readPositional depth fields false (set record) s

/-- A record, starting from one whose fields stand for those that are not written. -/
def readRecord (title : String) (fields : List (Field σ)) (default : σ) (depth : Nat) :
    Reader σ := fun s =>
  match skipBlanks s with
  | '[' :: rest =>
    match depth with
    | 0 => .error .tooDeep
    | depth + 1 => readPositional depth fields true default rest
  | '\x7b' :: rest =>
    match depth with
    | 0 => .error .tooDeep
    | depth + 1 => readNamed fields depth (rest.length + 1) true [] default rest
  | _ => .error (mismatch ("struct " ++ title) s)

/-- The written form of a record. -/
def printRecord (fields : List (Field σ)) (record : σ) : List Char :=
  printObject (fields.map fun field => printField field.name (field.print record))

end Json

end Intake
