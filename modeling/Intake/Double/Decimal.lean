import Intake.Double

/-!
# Decimal notation of binary64 numbers

Reading follows a fixed recipe: the significand is rounded to a double, then multiplied or divided
by a rounded power of ten, at most `10 ^ 308` at a time. Writing uses the fewest digits that lie in
the interval of reals rounding to the number, the nearest such digits, a tie to the even ones.
-/

namespace Intake

namespace Magnitude

/-- The double nearest to a power of ten; the exponent is at most 308. -/
def tenTo (k : Nat) : Magnitude := (ofNat? (Nat.pow 10 k)).getD zero

/-- Divide by `10 ^ 308` the given number of times, stopping at zero. -/
def sink : Nat → Magnitude → Magnitude
  | 0, m => m
  | n + 1, m => if m.mantissa = 0 then m else sink n ((m.div? (tenTo 308)).getD zero)

/-- `significand · 10 ^ exponent` by the recipe above; none if it is beyond the largest number. -/
def ofDecimal? (significand : Nat) (exponent : Int) : Option Magnitude :=
  (ofNat? significand).bind fun m =>
    if 0 ≤ exponent then
      if exponent ≤ 308 then m.mul? (tenTo exponent.toNat)
      else if m.mantissa = 0 then some m else none
    else
      let down := (-exponent).toNat
      let steps := (down - 1) / 308
      (sink steps m).div? (tenTo (down - 308 * steps))

/-- Four times the number and the ends of the interval of reals that round to it, in units of
`2 ^ (exponent - 2)`. -/
def quarters (m : Magnitude) : Nat × Nat × Nat :=
  let below := if m.mantissa = Nat.pow 2 52 ∧ minExponent < m.exponent then 1 else 2
  (4 * m.mantissa - below, 4 * m.mantissa, 4 * m.mantissa + 2)

/-- `num / den` is at least `10 ^ k`. -/
def atLeastTenTo (num den : Nat) (k : Int) : Bool :=
  if 0 ≤ k then den * Nat.pow 10 k.toNat ≤ num else den ≤ num * Nat.pow 10 (-k).toNat

/-- The decimal exponent of the leading digit of `num / den`, which is `mantissa · 2 ^ exponent`. -/
def leadingPlace (num den : Nat) (log : Int) : Int :=
  let guess := Int.fdiv (log * 30103) 100000
  if atLeastTenTo num den (guess + 1) then guess + 1
  else if atLeastTenTo num den guess then guess
  else guess - 1

/-- The multiple of `10 ^ place` that stands for the number: a neighbour of it on that grid which
lies in the rounding interval, the nearer of two, the even one of two equally near. -/
def onGrid? (low value high den : Nat) (closed : Bool) (place : Int) : Option Nat :=
  let up := if 0 ≤ place then 1 else Nat.pow 10 (-place).toNat
  let unit := den * (if 0 ≤ place then Nat.pow 10 place.toNat else 1)
  let value := value * up
  let down := value / unit
  let inLow := if closed then low * up ≤ down * unit else low * up < down * unit
  let inHigh := if closed then (down + 1) * unit ≤ high * up else (down + 1) * unit < high * up
  let rest := value - down * unit
  if inLow then
    if inHigh then
      if 2 * rest < unit then some down
      else if unit < 2 * rest then some (down + 1)
      else if down % 2 = 0 then some down else some (down + 1)
    else some down
  else if inHigh then some (down + 1) else none

/-- Drop trailing decimal zeros, counting them. -/
def trim : Nat → Nat → Int → Nat × Int
  | 0, digits, place => (digits, place)
  | n + 1, digits, place =>
    if digits % 10 = 0 then trim n (digits / 10) (place + 1) else (digits, place)

/-- The shortest decimal `digits · 10 ^ place` that reads back as the number. -/
def shortest (m : Magnitude) : Nat × Int :=
  if m.mantissa = 0 then (0, 0)
  else
    let (low, value, high) := m.quarters
    let scale := m.exponent - 2
    let up := if 0 ≤ scale then Nat.pow 2 scale.toNat else 1
    let den := if 0 ≤ scale then 1 else Nat.pow 2 (-scale).toNat
    let leading := leadingPlace (value * up) den ((m.mantissa.log2 : Int) + m.exponent)
    let closed := m.mantissa % 2 == 0
    let found := (List.range 17).findSome? fun (n : Nat) =>
      let place := leading - (n : Int)
      (onGrid? (low * up) (value * up) (high * up) den closed place).map fun digits => (digits, place)
    let (digits, place) := found.getD (0, 0)
    trim 18 digits place

end Magnitude

/-- The decimal digits of a whole number. -/
def decimal (n : Nat) : List Char := Nat.toDigits 10 n

namespace Magnitude

/-- Positional from `10 ^ -5` up to, not including, `10 ^ 16`, always with a fractional digit;
otherwise scientific, with the sign of the exponent written out. -/
def print (m : Magnitude) : List Char :=
  if m.mantissa = 0 then ['0', '.', '0']
  else
    let (digits, place) := m.shortest
    let text := decimal digits
    let point : Int := text.length + place
    if 0 ≤ place ∧ point ≤ 16 then text ++ List.replicate place.toNat '0' ++ ['.', '0']
    else if 0 < point ∧ point ≤ 16 then text.take point.toNat ++ '.' :: text.drop point.toNat
    else if -5 < point ∧ point ≤ 0 then '0' :: '.' :: List.replicate (-point).toNat '0' ++ text
    else
      let exponent := point - 1
      let mantissa := match text with
        | [d] => [d]
        | d :: rest => d :: '.' :: rest
        | [] => []
      mantissa ++ ['e', if exponent < 0 then '-' else '+'] ++ decimal exponent.natAbs

/-- Positional without a fractional part: the shortest digits, then zeros. -/
def printWhole (m : Magnitude) : List Char :=
  let (digits, place) := m.shortest
  decimal digits ++ List.replicate place.toNat '0'

end Magnitude

/-- The written form of a double: the form of its magnitude behind its sign. -/
def Double.print (d : Double) : List Char :=
  if d.negative then '-' :: d.magnitude.print else d.magnitude.print

end Intake
