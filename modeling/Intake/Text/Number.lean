import Intake.Double.Decimal

/-!
# Whole numbers in text

A number is an optional sign and at least one decimal digit, nothing else. Characters are taken
from left to right, and the first that is no digit, or that takes the number out of its range, is
the problem.
-/

namespace Intake

namespace Text

inductive NumberProblem where
  | empty
  | badDigit
  | tooLarge
  | tooSmall
deriving DecidableEq, Repr

def NumberProblem.message : NumberProblem → String
  | .empty => "cannot parse integer from empty string"
  | .badDigit => "invalid digit found in string"
  | .tooLarge => "number too large to fit in target type"
  | .tooSmall => "number too small to fit in target type"

/-- The number whose further digits are given, at most `most`; `beyond` is the problem of a larger
one. -/
def digits (most : Nat) (beyond : NumberProblem) : Nat → List Char → Except NumberProblem Nat
  | n, [] => .ok n
  | n, c :: rest =>
    if c.isDigit then
      let n' := n * 10 + (c.toNat - 48)
      if n' ≤ most then digits most beyond n' rest else .error beyond
    else .error .badDigit

/-- A number below `bound`; a plus sign may stand before it. -/
def natural (bound : Nat) : List Char → Except NumberProblem Nat
  | [] => .error .empty
  | ['+'] => .error .badDigit
  | '+' :: rest => digits (bound - 1) .tooLarge 0 rest
  | s => digits (bound - 1) .tooLarge 0 s

/-- A number from `-half` up to, not including, `half`; either sign may stand before it. -/
def integer (half : Nat) : List Char → Except NumberProblem Int
  | ['-'] => .error .badDigit
  | '-' :: rest => (digits half .tooSmall 0 rest).map fun n => -(n : Int)
  | s => (natural half s).map fun n => (n : Int)

end Text

end Intake
