import Intake.Bytes

/-!
# SipHash-1-3

A keyed hash of byte strings: one round for each word of the input, three at the end. The key used
here is zero.
-/

namespace Intake

namespace SipHash

structure State where
  v0 : UInt64
  v1 : UInt64
  v2 : UInt64
  v3 : UInt64
deriving DecidableEq, Repr

/-- The start for the zero key. -/
def State.init : State :=
  ⟨0x736f6d6570736575, 0x646f72616e646f6d, 0x6c7967656e657261, 0x7465646279746573⟩

def rotate (x : UInt64) (k : UInt64) : UInt64 := (x <<< k) ||| (x >>> (64 - k))

def round (s : State) : State :=
  let v0 := s.v0 + s.v1
  let v1 := rotate s.v1 13 ^^^ v0
  let v0 := rotate v0 32
  let v2 := s.v2 + s.v3
  let v3 := rotate s.v3 16 ^^^ v2
  let v0 := v0 + v3
  let v3 := rotate v3 21 ^^^ v0
  let v2 := v2 + v1
  let v1 := rotate v1 17 ^^^ v2
  let v2 := rotate v2 32
  ⟨v0, v1, v2, v3⟩

/-- Take in one word. -/
def absorb (s : State) (word : UInt64) : State :=
  let s := round { s with v3 := s.v3 ^^^ word }
  { s with v0 := s.v0 ^^^ word }

/-- The number written by bytes, the least significant one first. -/
def littleEndian (bytes : Bytes) : UInt64 :=
  bytes.foldr (fun byte word => (word <<< 8) ||| byte.toUInt64) 0

/-- Take in the words of a byte string of the given whole length; the last word holds what is left
and the length modulo 256. -/
def absorbAll (length : Nat) (s : State) : Bytes → State
  | a :: b :: c :: d :: e :: f :: g :: h :: rest =>
    absorbAll length (absorb s (littleEndian [a, b, c, d, e, f, g, h])) rest
  | rest => absorb s (littleEndian rest ||| (UInt64.ofNat length <<< 56))

def finish (s : State) : UInt64 :=
  let s := round (round (round { s with v2 := s.v2 ^^^ 0xff }))
  s.v0 ^^^ s.v1 ^^^ s.v2 ^^^ s.v3

/-- The hash of a byte string. -/
def hash (bytes : Bytes) : UInt64 := finish (absorbAll bytes.length State.init bytes)

/-- The hash of a text: of its UTF-8 bytes and one byte 255 behind them. -/
def hashText (text : String) : UInt64 := hash (Bytes.ofText text ++ [0xff])

end SipHash

end Intake
