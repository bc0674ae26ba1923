/-!
# Bytes

Message bodies, environment values and file contents are byte strings. They are text exactly when
they are valid UTF-8; nothing else about them is ever looked at.
-/

namespace Intake

/-- A byte string. -/
abbrev Bytes := List UInt8

namespace Bytes

/-- The UTF-8 bytes of a text. -/
def ofText (text : String) : Bytes := text.toUTF8.toList

/-- The text the bytes spell, if they are valid UTF-8. -/
def text? (bytes : Bytes) : Option String := String.fromUTF8? ⟨bytes.toArray⟩

end Bytes

end Intake
