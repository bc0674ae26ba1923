import Intake.Double.Decimal
import Intake.Text.Quoted

/-!
# What can be wrong with a JSON text

Reading stops at the first problem. A problem is a cause; its wording is one function of it.
-/

namespace Intake

namespace Json

/-- What stood in the place of something of another kind. -/
inductive Found where
  | null
  | boolean (b : Bool)
  | integer (n : Int)
  | real (d : Double)
  | text (s : List Char)
  | sequence
  | map
deriving DecidableEq, Repr

inductive Problem where
  | endInValue
  | endInList
  | endInObject
  | endInText
  | noValue
  | badWord
  | noColon
  | noListSeparator
  | noObjectSeparator
  | keyNotText
  | trailingComma
  | trailingCharacters
  | badNumber
  | numberOutOfRange
  | badEscape
  | loneSurrogate
  | unfinishedPair
  | controlCharacter
  | tooDeep
  | repeatedField (name : String)
  | wrongKind (found : Found) (expected : String)
  | outOfRange (found : Int) (expected : String)
deriving DecidableEq, Repr

/-- A whole number with its sign. -/
def printInteger (n : Int) : List Char :=
  if n < 0 then '-' :: decimal n.natAbs else decimal n.natAbs

/-- A finding as messages name it. -/
def Found.describe : Found → String
  | .null => "null"
  | .boolean b => if b then "boolean `true`" else "boolean `false`"
  | .integer n => "integer `" ++ String.ofList (printInteger n) ++ "`"
  | .real d => "floating point `" ++ String.ofList d.print ++ "`"
  | .text s => "string " ++ String.ofList (Text.quoted s)
  | .sequence => "sequence"
  | .map => "map"

def Problem.message : Problem → String
  | .endInValue => "EOF while parsing a value"
  | .endInList => "EOF while parsing a list"
  | .endInObject => "EOF while parsing an object"
  | .endInText => "EOF while parsing a string"
  | .noValue => "expected value"
  | .badWord => "expected ident"
  | .noColon => "expected `:`"
  | .noListSeparator => "expected `,` or `]`"
  | .noObjectSeparator => "expected `,` or `\x7d`"
  | .keyNotText => "key must be a string"
  | .trailingComma => "trailing comma"
  | .trailingCharacters => "trailing characters"
  | .badNumber => "invalid number"
  | .numberOutOfRange => "number out of range"
  | .badEscape => "invalid escape"
  | .loneSurrogate => "lone leading surrogate in hex escape"
  | .unfinishedPair => "unexpected end of hex escape"
  | .controlCharacter => "control character (\\u0000-\\u001F) found while parsing a string"
  | .tooDeep => "recursion limit exceeded"
  | .repeatedField name => "duplicate field `" ++ name ++ "`"
  | .wrongKind found expected => "invalid type: " ++ found.describe ++ ", expected " ++ expected
  | .outOfRange found expected =>
    "invalid value: " ++ (Found.integer found).describe ++ ", expected " ++ expected

end Json

end Intake
