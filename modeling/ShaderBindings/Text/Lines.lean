/-
  Lines of a text (`Text.lines`). A line ends at any of the line break characters of Unicode
  (`Text.isLineBreak`), a carriage return and the line feed behind it being one break; nothing
  follows a break at the end.
-/

namespace ShaderBindings.Text

/-- Line feed to carriage return, the three information separators, next line, and the line and
paragraph separators. -/
def isLineBreak (c : Char) : Bool :=
  (0xa ≤ c.toNat && c.toNat ≤ 0xd) || (0x1c ≤ c.toNat && c.toNat ≤ 0x1e) || c.toNat == 0x85
    || c.toNat == 0x2028 || c.toNat == 0x2029

/-- The lines of a text, without their breaks. -/
def lines : List Char → List (List Char)
  | [] => []
  | '\r' :: '\n' :: rest => [] :: lines rest
  | c :: rest =>
    if isLineBreak c then [] :: lines rest
    else
      match lines rest with
      | [] => [[c]]
      | line :: more => (c :: line) :: more

theorem lines_nil : lines [] = [] := by rw [lines]

end ShaderBindings.Text
