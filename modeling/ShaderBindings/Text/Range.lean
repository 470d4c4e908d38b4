/-
  Sets of code points given as a list of inclusive ranges (`Text.inRanges`).
-/

namespace ShaderBindings.Text

/-- Whether a code point lies in one of the ranges. -/
def inRanges (ranges : List (Nat × Nat)) (n : Nat) : Bool :=
  ranges.any fun r => r.1 ≤ n && n ≤ r.2

end ShaderBindings.Text
