/-
  White space in the wide sense (`Text.isBlank`: every separator, and the controls that move the
  position), and the removal of such characters from the end of a line (`Text.trimEnd`).
-/
import ShaderBindings.Text.Range

namespace ShaderBindings.Text

/-- The code points that count as white space. -/
def blankRanges : List (Nat × Nat) :=
  [(0x9, 0xd), (0x1c, 0x20), (0x85, 0x85), (0xa0, 0xa0), (0x1680, 0x1680), (0x2000, 0x200a),
   (0x2028, 0x2029), (0x202f, 0x202f), (0x205f, 0x205f), (0x3000, 0x3000)]

def isBlank (c : Char) : Bool := inRanges blankRanges c.toNat

/-- The six ASCII characters that may surround a numeral or a pair of hexadecimal digits. -/
def isAsciiBlank (c : Char) : Bool := c.toNat == 0x20 || (0x9 ≤ c.toNat && c.toNat ≤ 0xd)

/-- The text without the white space at its end. -/
def trimEnd (cs : List Char) : List Char := (cs.reverse.dropWhile isBlank).reverse

end ShaderBindings.Text
