import Intake.Double.Decimal

/-!
# Durations

A span of time in seconds and nanoseconds. Clocks here move by whole milliseconds.
-/

namespace Intake

/-- A span of time; `nanos` stays below `10 ^ 9`. -/
structure Duration where
  seconds : Nat
  nanos : Nat
deriving DecidableEq, Repr, Inhabited

namespace Duration

/-- The longest span: `2 ^ 64` seconds less one nanosecond. -/
def longest : Duration := ⟨Nat.pow 2 64 - 1, 999999999⟩

def ofMillis (ms : Nat) : Duration := ⟨ms / 1000, ms % 1000 * 1000000⟩

/-- Whole milliseconds, the rest dropped. -/
def millis (d : Duration) : Nat := d.seconds * 1000 + d.nanos / 1000000

/-- Milliseconds, a part of one counting as a whole one. -/
def millisUp (d : Duration) : Nat := d.seconds * 1000 + (d.nanos + 999999) / 1000000

/-- The decimal places of a fraction, trailing zeros left out. -/
def places (digits fraction : Nat) : List Char :=
  let text := decimal fraction
  let padded := List.replicate (digits - text.length) '0' ++ text
  (padded.reverse.dropWhile (· == '0')).reverse

/-- A number with a fraction of so many decimal places. -/
def printDecimal (whole digits fraction : Nat) : List Char :=
  match places digits fraction with
  | [] => decimal whole
  | tail => decimal whole ++ '.' :: tail

/-- In the largest of seconds, milli-, micro- and nanoseconds that gives a whole part. -/
def describe (d : Duration) : String :=
  if 0 < d.seconds then String.ofList (printDecimal d.seconds 9 d.nanos) ++ "s"
  else if 1000000 ≤ d.nanos then
    String.ofList (printDecimal (d.nanos / 1000000) 6 (d.nanos % 1000000)) ++ "ms"
  else if 1000 ≤ d.nanos then
    String.ofList (printDecimal (d.nanos / 1000) 3 (d.nanos % 1000)) ++ "µs"
  else String.ofList (decimal d.nanos) ++ "ns"

end Duration

end Intake
