import Intake.Json.Characters
import Intake.Json.Numeral

/-!
# Reading JSON

A reader takes one thing from the front of a text and leaves the rest. Values that are kept may
nest only so deep; values that are passed over may nest freely, and their numbers and surrogates
are not valued. The first problem in reading order is the one reported.
-/

namespace Intake

namespace Json

/-- Takes something from the front of a text. -/
abbrev Reader (α : Type) := List Char → Except Problem (α × List Char)

def isJsonBlank (c : Char) : Bool := c == ' ' || c == '\n' || c == '\t' || c == '\r'

def skipBlanks (s : List Char) : List Char := s.dropWhile isJsonBlank

/-- The remaining letters of a word that is already recognised by its first. -/
def readWord : List Char → List Char → Except Problem (List Char)
  | [], s => .ok s
  | _ :: _, [] => .error .endInValue
  | w :: word, c :: s => if c = w then readWord word s else .error .badWord

/-! ## Separators -/

/-- The place of the next item of a list, or none at its closing bracket. -/
def nextItem (first : Bool) (s : List Char) : Except Problem (Option (List Char)) :=
  match skipBlanks s with
  | [] => .error .endInList
  | ']' :: _ => .ok none
  | c :: rest =>
    if first then .ok (some (c :: rest))
    else if c = ',' then
      match skipBlanks rest with
      | [] => .error .endInValue
      | ']' :: _ => .error .trailingComma
      | rest => .ok (some rest)
    else .error .noListSeparator

/-- The name of the next field of an object and what follows it, or none at the closing brace. -/
def nextName (first : Bool) (s : List Char) :
    Except Problem (Option (List Char × List Char)) :=
  match skipBlanks s with
  | [] => .error .endInObject
  | '\x7d' :: _ => .ok none
  | c :: rest =>
    if first then
      if c = '"' then (readChars rest).map some else .error .keyNotText
    else if c = ',' then
      match skipBlanks rest with
      | [] => .error .endInValue
      | '"' :: rest => (readChars rest).map some
      | '\x7d' :: _ => .error .trailingComma
      | _ => .error .keyNotText
    else .error .noObjectSeparator

/-- What follows the colon between a name and its value. -/
def skipColon (s : List Char) : Except Problem (List Char) :=
  match skipBlanks s with
  | [] => .error .endInObject
  | ':' :: rest => .ok rest
  | _ => .error .noColon

/-- What follows the closing bracket of a list that takes no further item. -/
def closeList (s : List Char) : Except Problem (List Char) :=
  match skipBlanks s with
  | [] => .error .endInList
  | ']' :: rest => .ok rest
  | ',' :: rest =>
    match skipBlanks rest with
    | ']' :: _ => .error .trailingComma
    | _ => .error .trailingCharacters
  | _ => .error .trailingCharacters

/-- Nothing but blanks may follow a document. -/
def finish (s : List Char) : Except Problem Unit :=
  match skipBlanks s with
  | [] => .ok ()
  | _ => .error .trailingCharacters

/-! ## Lists and objects of anything

The number bounds the items that are left; the length of the text is always enough. -/

/-- The items of a list, behind its opening bracket, up to and with the closing one. -/
def readItems {α : Type} (item : Reader α) : Nat → Bool → Reader (List α)
  | 0, _, _ => .error .endInList
  | n + 1, first, s => do
    match ← nextItem first s with
    | none => return ([], (skipBlanks s).drop 1)
    | some s =>
      let (x, s) ← item s
      let (xs, s) ← readItems item n false s
      return (x :: xs, s)

/-- The entries of an object, behind its opening brace, up to and with the closing one. -/
def readEntries {α : Type} (item : Reader α) : Nat → Bool → Reader (List (String × α))
  | 0, _, _ => .error .endInObject
  | n + 1, first, s => do
    match ← nextName first s with
    | none => return ([], (skipBlanks s).drop 1)
    | some (name, s) =>
      let s ← skipColon s
      let (x, s) ← item s
      let (xs, s) ← readEntries item n false s
      return ((String.ofList name, x) :: xs, s)

/-! ## Values that are kept -/

/-- A value, given how its lists and objects are read behind their opening characters. -/
def readValueWith (list object : Reader Value) (s : List Char) :
    Except Problem (Value × List Char) :=
  match skipBlanks s with
  | [] => .error .endInValue
  | 'n' :: s => (readWord ['u', 'l', 'l'] s).map fun s => (.null, s)
  | 't' :: s => (readWord ['r', 'u', 'e'] s).map fun s => (.boolean true, s)
  | 'f' :: s => (readWord ['a', 'l', 's', 'e'] s).map fun s => (.boolean false, s)
  | '"' :: s => (readChars s).map fun (text, s) => (.text (String.ofList text), s)
  | '[' :: s => list s
  | '\x7b' :: s => object s
  | c :: s =>
    if c = '-' || c.isDigit then (readNumber (c :: s)).map fun (n, s) => (.number n, s)
    else .error .noValue

/-- A value in which at most the given number of lists and objects are open at once. -/
def readValue : Nat → Reader Value
  | 0 => readValueWith (fun _ => .error .tooDeep) (fun _ => .error .tooDeep)
  | depth + 1 => readValueWith
      (fun s => (readItems (readValue depth) (s.length + 1) true s).map
        fun (items, s) => (.list items, s))
      (fun s => (readEntries (readValue depth) (s.length + 1) true s).map
        fun (entries, s) => (.object (sortedByName entries), s))

/-- How many lists and objects may be open at once in a document. -/
def maxDepth : Nat := 127

/-- The value of a whole document. -/
def Value.parse (text : String) : Except Problem Value := do
  let (value, rest) ← readValue maxDepth text.toList
  finish rest
  return value

/-! ## Values that are passed over -/

/-- What follows the items of a list that is passed over. -/
def skipItems (item : List Char → Except Problem (List Char)) :
    Nat → Bool → List Char → Except Problem (List Char)
  | 0, _, _ => .error .endInList
  | n + 1, first, s =>
    match skipBlanks s with
    | [] => .error .endInList
    | ']' :: rest => .ok rest
    | c :: rest => do
      if first then skipItems item n false (← item (c :: rest))
      else if c = ',' then skipItems item n false (← item rest)
      else throw .noListSeparator

/-- What follows the name of a field that is passed over, and its colon. -/
def skipName (s : List Char) : Except Problem (List Char) :=
  match skipBlanks s with
  | [] => .error .endInObject
  | '"' :: rest => do skipColon (← skipChars rest)
  | _ => .error .keyNotText

/-- What follows the fields of an object that is passed over. -/
def skipEntries (item : List Char → Except Problem (List Char)) :
    Nat → Bool → List Char → Except Problem (List Char)
  | 0, _, _ => .error .endInObject
  | n + 1, first, s =>
    match skipBlanks s with
    | [] => .error .endInObject
    | '\x7d' :: rest => .ok rest
    | c :: rest => do
      if first then skipEntries item n false (← item (← skipName (c :: rest)))
      else if c = ',' then skipEntries item n false (← item (← skipName rest))
      else throw .noObjectSeparator

/-- What follows a value that is passed over. The number bounds how deep it nests and how many
items it has on each level; one more than the length of the text is always enough. -/
def skipValue : Nat → List Char → Except Problem (List Char)
  | 0, _ => .error .endInValue
  | n + 1, s =>
    match skipBlanks s with
    | [] => .error .endInValue
    | 'n' :: s => readWord ['u', 'l', 'l'] s
    | 't' :: s => readWord ['r', 'u', 'e'] s
    | 'f' :: s => readWord ['a', 'l', 's', 'e'] s
    | '"' :: s => skipChars s
    | '[' :: s => skipItems (skipValue n) (n + 1) true s
    | '\x7b' :: s => skipEntries (skipValue n) (n + 1) true s
    | c :: s =>
      if c = '-' || c.isDigit then (scanNumeral .badNumber (c :: s)).map fun (_, s) => s
      else .error .noValue

end Json

end Intake
