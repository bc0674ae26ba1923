import Intake.Double.Decimal
import Intake.Json.Problem
import Intake.Json.Value

/-!
# Numerals

A numeral is scanned into its digits first and valued afterwards. The significand takes digits
while it fits in 64 bits: further digits of the whole part count as powers of ten, further digits
of the fraction are dropped.
-/

namespace Intake

namespace Json

/-- The parts of a numeral, digit by digit. -/
structure Numeral where
  negative : Bool
  whole : List Nat
  fraction : Option (List Nat)
  /-- Whether the exponent is negative, and its digits. -/
  exponent : Option (Bool × List Nat)
deriving DecidableEq, Repr

def digit (c : Char) : Nat := c.toNat - 48

/-- The digits a text begins with. -/
def leadingDigits (s : List Char) : List Nat := (s.takeWhile Char.isDigit).map digit

/-- What follows the digits a text begins with. -/
def afterDigits (s : List Char) : List Char := s.dropWhile Char.isDigit

/-- At least one digit; `cut` is the problem of a text that ends here. -/
def scanDigits (cut : Problem) : List Char → Except Problem (List Nat × List Char)
  | [] => .error cut
  | c :: rest =>
    if c.isDigit then .ok (leadingDigits (c :: rest), afterDigits (c :: rest)) else .error .badNumber

/-- A whole part: one zero, or digits that do not begin with one. -/
def scanWhole (cut : Problem) : List Char → Except Problem (List Nat × List Char)
  | '0' :: c :: rest => if c.isDigit then .error .badNumber else .ok ([0], c :: rest)
  | s => scanDigits cut s

def scanFraction (cut : Problem) : List Char → Except Problem (Option (List Nat) × List Char)
  | '.' :: rest => (scanDigits cut rest).map fun (digits, rest) => (some digits, rest)
  | s => .ok (none, s)

/-- The digits of an exponent behind its sign, if it has one. -/
def scanSigned (cut : Problem) : List Char → Except Problem ((Bool × List Nat) × List Char)
  | '-' :: rest => (scanDigits cut rest).map fun (digits, rest) => ((true, digits), rest)
  | '+' :: rest => (scanDigits cut rest).map fun (digits, rest) => ((false, digits), rest)
  | s => (scanDigits cut s).map fun (digits, rest) => ((false, digits), rest)

def scanExponent (cut : Problem) :
    List Char → Except Problem (Option (Bool × List Nat) × List Char)
  | 'e' :: rest => (scanSigned cut rest).map fun (exponent, rest) => (some exponent, rest)
  | 'E' :: rest => (scanSigned cut rest).map fun (exponent, rest) => (some exponent, rest)
  | s => .ok (none, s)

/-- A numeral without its sign. -/
def scanUnsigned (cut : Problem) (negative : Bool) (s : List Char) :
    Except Problem (Numeral × List Char) := do
  let (whole, s) ← scanWhole cut s
  let (fraction, s) ← scanFraction cut s
  let (exponent, s) ← scanExponent cut s
  return (⟨negative, whole, fraction, exponent⟩, s)

/-- A numeral; `cut` is the problem of a text that ends within it. -/
def scanNumeral (cut : Problem) : List Char → Except Problem (Numeral × List Char)
  | '-' :: rest => scanUnsigned cut true rest
  | s => scanUnsigned cut false s

/-- Take digits into a significand while it fits in 64 bits; the rest is handed back. -/
def absorb : Nat → List Nat → Nat × List Nat
  | significand, [] => (significand, [])
  | significand, d :: rest =>
    if significand * 10 + d < Nat.pow 2 64 then absorb (significand * 10 + d) rest
    else (significand, d :: rest)

/-- The whole number written by some digits. -/
def ofDigits (digits : List Nat) : Nat := digits.foldl (fun n d => n * 10 + d) 0

namespace Numeral

/-- The exponent as a number, zero if there is none. -/
def power (n : Numeral) : Int :=
  match n.exponent with
  | none => 0
  | some (negative, digits) => if negative then -(ofDigits digits : Int) else ofDigits digits

/-- An integer of 64 bits with its sign; zero with a sign, or a magnitude beyond the range, is a
double. -/
def ofWhole (negative : Bool) (significand : Nat) : Number :=
  if negative then
    if significand = 0 ∨ Nat.pow 2 63 < significand then
      .real ⟨true, (Magnitude.ofNat? significand).getD .zero⟩
    else .integer (-(significand : Int))
  else .integer significand

/-- The value of a numeral; none if its magnitude is beyond the largest double. -/
def number? (n : Numeral) : Option Number :=
  let (significand, extra) := absorb 0 n.whole
  match n.fraction, n.exponent, extra with
  | none, none, [] => some (ofWhole n.negative significand)
  | _, _, _ =>
    let fraction := n.fraction.getD []
    let (significand, dropped) := absorb significand fraction
    let places : Int := fraction.length - dropped.length
    (Magnitude.ofDecimal? significand (extra.length - places + n.power)).map fun m =>
      .real ⟨n.negative, m⟩

end Numeral

/-- Read a numeral to its value. -/
def readNumber (s : List Char) : Except Problem (Number × List Char) := do
  let (numeral, rest) ← scanNumeral .endInValue s
  match numeral.number? with
  | some n => return (n, rest)
  | none => throw .numberOutOfRange

end Json

end Intake
