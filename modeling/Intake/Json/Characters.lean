import Intake.Json.Problem

/-!
# Text between quotes

The characters of a JSON string: what stands for what, read from the text after the opening quote.
A string that is only passed over is checked for its shape, not for paired surrogates.
-/

namespace Intake

namespace Json

/-- The value of a hexadecimal digit. -/
def hexDigit? (c : Char) : Option Nat :=
  if c.isDigit then some (c.toNat - 48)
  else if 'a' ≤ c ∧ c ≤ 'f' then some (c.toNat - 87)
  else if 'A' ≤ c ∧ c ≤ 'F' then some (c.toNat - 55)
  else none

/-- The code unit that four hexadecimal digits write. -/
def codeUnit? (a b c d : Char) : Option Nat := do
  return (((← hexDigit? a) * 16 + (← hexDigit? b)) * 16 + (← hexDigit? c)) * 16 + (← hexDigit? d)

def isLeading (unit : Nat) : Bool := 0xd800 ≤ unit && unit ≤ 0xdbff

def isTrailing (unit : Nat) : Bool := 0xdc00 ≤ unit && unit ≤ 0xdfff

/-- The character that a pair of surrogates writes. -/
def pairChar (lead trail : Nat) : Char :=
  Char.ofNat ((lead - 0xd800) * 0x400 + (trail - 0xdc00) + 0x10000)

/-- The character that a single letter behind a backslash stands for. -/
def escaped? : Char → Option Char
  | '"' => some '"'
  | '\\' => some '\\'
  | '/' => some '/'
  | 'b' => some '\x08'
  | 'f' => some '\x0c'
  | 'n' => some '\n'
  | 'r' => some '\r'
  | 't' => some '\t'
  | _ => none

/-- The problem of a code unit for which fewer than four characters are left: four bytes would be
a bad escape, fewer are the end of the text. -/
def shortEscape (rest : List Char) : Problem :=
  if 4 ≤ rest.foldl (fun size c => size + c.utf8Size) 0 then .badEscape else .endInText

/-- Put a character in front of a result. -/
def withChar (c : Char) (r : Except Problem (List Char × List Char)) :
    Except Problem (List Char × List Char) :=
  r.map fun (s, rest) => (c :: s, rest)

/-- The characters up to the closing quote, and what follows it. -/
def readChars : List Char → Except Problem (List Char × List Char)
  | [] => .error .endInText
  | '"' :: rest => .ok ([], rest)
  | '\\' :: 'u' :: a :: b :: c :: d :: rest =>
    match codeUnit? a b c d with
    | none => .error .badEscape
    | some unit =>
      if isTrailing unit then .error .loneSurrogate
      else if isLeading unit then
        match rest with
        | '\\' :: 'u' :: a :: b :: c :: d :: rest =>
          match codeUnit? a b c d with
          | none => .error .badEscape
          | some trail =>
            if isTrailing trail then withChar (pairChar unit trail) (readChars rest)
            else .error .loneSurrogate
        | '\\' :: 'u' :: rest => .error (shortEscape rest)
        | ['\\'] => .error .endInText
        | [] => .error .endInText
        | _ => .error .unfinishedPair
      else withChar (Char.ofNat unit) (readChars rest)
  | '\\' :: 'u' :: rest => .error (shortEscape rest)
  | ['\\'] => .error .endInText
  | '\\' :: c :: rest =>
    match escaped? c with
    | some c => withChar c (readChars rest)
    | none => .error .badEscape
  | c :: rest =>
    if c.toNat < 0x20 then .error .controlCharacter else withChar c (readChars rest)

/-- What follows the closing quote, the characters before it being only checked for shape. -/
def skipChars : List Char → Except Problem (List Char)
  | [] => .error .endInText
  | '"' :: rest => .ok rest
  | '\\' :: 'u' :: a :: b :: c :: d :: rest =>
    match codeUnit? a b c d with
    | none => .error .badEscape
    | some _ => skipChars rest
  | '\\' :: 'u' :: rest => .error (shortEscape rest)
  | ['\\'] => .error .endInText
  | '\\' :: c :: rest =>
    match escaped? c with
    | some _ => skipChars rest
    | none => .error .badEscape
  | c :: rest => if c.toNat < 0x20 then .error .controlCharacter else skipChars rest

/-- How one character is written between quotes. -/
def printChar (c : Char) : List Char :=
  if c = '"' then ['\\', '"']
  else if c = '\\' then ['\\', '\\']
  else if c = '\x08' then ['\\', 'b']
  else if c = '\x0c' then ['\\', 'f']
  else if c = '\n' then ['\\', 'n']
  else if c = '\r' then ['\\', 'r']
  else if c = '\t' then ['\\', 't']
  else if c.toNat < 0x20 then
    ['\\', 'u', '0', '0', Nat.digitChar (c.toNat / 16), Nat.digitChar (c.toNat % 16)]
  else [c]

/-- A text between quotes. -/
def printText (s : List Char) : List Char := '"' :: s.flatMap printChar ++ ['"']

end Json

end Intake
