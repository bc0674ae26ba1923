import Mathlib.Tactic.SplitIfs
import Intake.Json.Characters

/-!
# Text between quotes, written and read

Whatever follows, the characters that were written between quotes are the ones that are read back,
control characters and the quote itself included.
-/

namespace Intake

namespace Json

@[simp]
theorem withChar_ok (c : Char) (s rest : List Char) :
    withChar c (.ok (s, rest)) = .ok (c :: s, rest) := rfl

/-- A character that needs no escape stands for itself. -/
theorem readChars_plain {c : Char} (quote : c ≠ '"') (backslash : c ≠ '\\')
    (printable : ¬ c.toNat < 0x20) (s : List Char) :
    readChars (c :: s) = withChar c (readChars s) := by
  rw [readChars, if_neg printable]
  all_goals simp_all

/-- The escape of a control character is read back as that character. -/
private theorem codeUnit?_control : ∀ n < 0x20,
    codeUnit? '0' '0' (Nat.digitChar (n / 16)) (Nat.digitChar (n % 16)) = some n := by
  decide

private theorem readChars_control {c : Char} (control : c.toNat < 0x20) (s : List Char) :
    readChars ('\\' :: 'u' :: '0' :: '0' :: Nat.digitChar (c.toNat / 16) ::
      Nat.digitChar (c.toNat % 16) :: s) = withChar c (readChars s) := by
  have trailing : isTrailing c.toNat = false := by simp [isTrailing]; omega
  have leading : isLeading c.toNat = false := by simp [isLeading]; omega
  rw [readChars, codeUnit?_control c.toNat control]
  simp [trailing, leading, Char.ofNat_toNat]

/-- A written character is read back, whatever follows. -/
private theorem readChars_printChar (c : Char) (s : List Char) :
    readChars (printChar c ++ s) = withChar c (readChars s) := by
  unfold printChar
  split_ifs with quote backslash backspace feed line carriage tab control
  · subst quote; rfl
  · subst backslash; rfl
  · subst backspace; rfl
  · subst feed; rfl
  · subst line; rfl
  · subst carriage; rfl
  · subst tab; rfl
  · exact readChars_control control s
  · exact readChars_plain quote backslash control s

/-- The characters of a written text are read back, up to its closing quote and no further. -/
theorem readChars_flatMap_printChar (s rest : List Char) :
    readChars (s.flatMap printChar ++ '"' :: rest) = .ok (s, rest) := by
  induction s with
  | nil => rfl
  | cons c s ih =>
    rw [List.flatMap_cons, List.append_assoc, readChars_printChar, ih, withChar_ok]

theorem printText_append (s rest : List Char) :
    printText s ++ rest = '"' :: (s.flatMap printChar ++ '"' :: rest) := by
  simp [printText]

end Json

end Intake
