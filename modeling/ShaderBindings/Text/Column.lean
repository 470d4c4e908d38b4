/-
  Text set in columns of a fixed width, counted in characters (`Text.padRight`, `Text.padLeft`).
  A text wider than its column keeps all its characters.
-/

namespace ShaderBindings.Text

/-- Blanks to the right, up to the width. -/
def padRight (width : Nat) (s : String) : String :=
  s ++ String.ofList (List.replicate (width - s.length) ' ')

/-- Blanks to the left, up to the width. -/
def padLeft (width : Nat) (s : String) : String :=
  String.ofList (List.replicate (width - s.length) ' ') ++ s

end ShaderBindings.Text
