/-
  Text as bytes. A file and an embedded payload are lists of bytes (`Bytes`); text becomes bytes
  in UTF-8 (`Bytes.ofText`), and bytes that are not UTF-8 have no text (`Bytes.text?`).
-/

namespace ShaderBindings

abbrev Bytes := List UInt8

namespace Bytes

/-- The bytes of a text. -/
def ofText (s : String) : Bytes := s.toList.flatMap String.utf8EncodeChar

/-- The text of a list of bytes. -/
def text? (bytes : Bytes) : Option String := String.fromUTF8? ⟨bytes.toArray⟩

end Bytes

end ShaderBindings
