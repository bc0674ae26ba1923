import Intake.Double

/-!
# JSON values

A number is an integer of at most 64 bits or a double. The fields of an object are kept sorted by
name, each name once: adding a field replaces an older one of the same name.
-/

namespace Intake

namespace Json

/-- A number: an integer between `-2 ^ 63` and `2 ^ 64 - 1`, or a double. -/
inductive Number where
  | integer (n : Int)
  | real (d : Double)
deriving DecidableEq, Repr

inductive Value where
  | null
  | boolean (b : Bool)
  | number (n : Number)
  | text (s : String)
  | list (items : List Value)
  | object (fields : List (String × Value))
deriving Repr, BEq, Inhabited

/-- Put an entry in its place in a list sorted by name, replacing one of the same name. -/
def putSorted {α : Type} (name : String) (item : α) : List (String × α) → List (String × α)
  | [] => [(name, item)]
  | (other, old) :: rest =>
    if name < other then (name, item) :: (other, old) :: rest
    else if name = other then (name, item) :: rest
    else (other, old) :: putSorted name item rest

/-- The entries in the order of their names; of several with one name, the last. -/
def sortedByName {α : Type} (entries : List (String × α)) : List (String × α) :=
  entries.foldl (fun sorted entry => putSorted entry.1 entry.2 sorted) []

namespace Value

/-- The value of a field of an object. -/
def field? (name : String) : Value → Option Value
  | .object fields => fields.lookup name
  | _ => none

end Value

end Json

end Intake
