import Intake.Json.Characters
import Intake.Json.Value

/-!
# Writing JSON

The compact form: no blanks, fields in the order of the object, text unescaped except for quotes,
backslashes and control characters.
-/

namespace Intake

namespace Json

/-- Put a comma between the parts. -/
def commas : List (List Char) → List Char
  | [] => []
  | [part] => part
  | part :: rest => part ++ ',' :: commas rest

/-- A field of an object, given its value in written form. -/
def printField (name : String) (value : List Char) : List Char :=
  printText name.toList ++ ':' :: value

def printList (items : List (List Char)) : List Char := '[' :: commas items ++ [']']

def printObject (fields : List (List Char)) : List Char := '\x7b' :: commas fields ++ ['\x7d']

def printBoolean (b : Bool) : List Char :=
  if b then ['t', 'r', 'u', 'e'] else ['f', 'a', 'l', 's', 'e']

def Number.print : Number → List Char
  | .integer n => printInteger n
  | .real d => d.print

mutual

/-- The written form of a value. -/
def Value.print : Value → List Char
  | .null => ['n', 'u', 'l', 'l']
  | .boolean b => printBoolean b
  | .number n => n.print
  | .text s => printText s.toList
  | .list items => printList (Value.printItems items)
  | .object fields => printObject (Value.printFields fields)

/-- The written forms of the items of a list. -/
def Value.printItems : List Value → List (List Char)
  | [] => []
  | item :: rest => item.print :: Value.printItems rest

/-- The written forms of the fields of an object. -/
def Value.printFields : List (String × Value) → List (List Char)
  | [] => []
  | (name, item) :: rest => printField name item.print :: Value.printFields rest

end

/-- The written form of a value as a text. -/
def Value.toText (v : Value) : String := String.ofList v.print

end Json

end Intake
