/-!
# Binary64 numbers

A finite binary64 number is a sign and a magnitude `mantissa · 2 ^ exponent`. Everything here is
exact integer arithmetic followed by one rounding to the nearest representable magnitude, ties to
the even mantissa. A magnitude beyond the largest one is no value.
-/

namespace Intake

/-- `mantissa · 2 ^ exponent`. The ones made here have `mantissa < 2 ^ 53` and
`-1074 ≤ exponent ≤ 971`, with a full mantissa unless the exponent is the least one. -/
structure Magnitude where
  mantissa : Nat
  exponent : Int
deriving DecidableEq, Repr

/-- A finite binary64 number; zero keeps its sign. -/
structure Double where
  negative : Bool
  magnitude : Magnitude
deriving DecidableEq, Repr

/-- The quotient rounded to the nearest whole number, a half to the even one. -/
def roundHalfEven (num den : Nat) : Nat :=
  let whole := num / den
  let twice := 2 * (num % den)
  if twice < den then whole
  else if den < twice then whole + 1
  else if whole % 2 = 0 then whole else whole + 1

namespace Magnitude

def zero : Magnitude := ⟨0, -1074⟩

/-- The least exponent, that of the numbers nearest to zero. -/
def minExponent : Int := -1074

/-- The exponent of the largest numbers. -/
def maxExponent : Int := 971

/-- `num / (den · 2 ^ shift)` as one quotient of whole numbers. -/
def scaled (num den : Nat) (shift : Int) : Nat × Nat :=
  if 0 ≤ shift then (num, den * Nat.pow 2 shift.toNat) else (num * Nat.pow 2 (-shift).toNat, den)

/-- The magnitude nearest to `num / den`; none if it is beyond the largest one. -/
def ofRatio? (num den : Nat) : Option Magnitude :=
  if num = 0 then some zero
  else
    let guess := max ((num.log2 : Int) - (den.log2 : Int) - 53) minExponent
    let coarse := scaled num den guess
    let exponent := if coarse.1 / coarse.2 < Nat.pow 2 53 then guess else guess + 1
    let fine := scaled num den exponent
    let mantissa := roundHalfEven fine.1 fine.2
    let result : Magnitude :=
      if mantissa < Nat.pow 2 53 then ⟨mantissa, exponent⟩ else ⟨Nat.pow 2 52, exponent + 1⟩
    if result.exponent ≤ maxExponent then some result else none

/-- The magnitude nearest to a whole number. -/
def ofNat? (n : Nat) : Option Magnitude := ofRatio? n 1

/-- `num / den · 2 ^ shift`, rounded once. -/
def ofScaled? (num den : Nat) (shift : Int) : Option Magnitude :=
  let ratio := scaled num den (-shift)
  ofRatio? ratio.1 ratio.2

def mul? (a b : Magnitude) : Option Magnitude :=
  ofScaled? (a.mantissa * b.mantissa) 1 (a.exponent + b.exponent)

def div? (a b : Magnitude) : Option Magnitude :=
  ofScaled? a.mantissa b.mantissa (a.exponent - b.exponent)

end Magnitude

end Intake
