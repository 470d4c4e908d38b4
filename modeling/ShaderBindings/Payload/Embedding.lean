/-
  Payloads in generated code: the bytes as literals, sixteen to a line (`Payload.byteLines`,
  `Payload.arrayLines`), and the source text as a comment that it cannot close
  (`Comment.ofSource`), since `Comment.disarm` takes the comment marks out of it.
-/
import ShaderBindings.Bytes.Hex
import ShaderBindings.Payload.Basic
import ShaderBindings.Text.Decimal
import ShaderBindings.Text.Lines

namespace ShaderBindings

namespace Payload

/-- The bytes in rows of sixteen; only the last row may be shorter. -/
def rows (data : Bytes) : List Bytes :=
  if data.isEmpty then [] else data.take 16 :: rows (data.drop 16)
termination_by data.length
decreasing_by
  rename_i h
  have : data ≠ [] := by simpa using h
  have := List.length_pos_iff.mpr this
  simp only [List.length_drop]
  omega

/-- A byte as a literal with a comma. -/
def literal (b : UInt8) : String := "0x" ++ Bytes.hexByte b ++ ","

/-- The literals of the bytes, line by line. -/
def byteLines (indent : String) (data : Bytes) : List String :=
  (rows data).map fun row => indent ++ String.join (row.map literal)

/-- The declaration of a private array. -/
def arrayLines (name : String) (data : Bytes) : List String :=
  ["@(private)", name ++ " := [" ++ Text.digits data.length ++ "]u8 \x7b"]
    ++ byteLines "    " data ++ ["\x7d"]

end Payload

namespace Comment

/-- Replaces the pair `a b` by `c d` everywhere, from the left. -/
def replacePair (a b c d : Char) : List Char → List Char
  | [] => []
  | [x] => [x]
  | x :: y :: rest =>
    if x = a ∧ y = b then c :: d :: replacePair a b c d rest
    else x :: replacePair a b c d (y :: rest)

/-- The text with its comment marks disarmed: first the opening ones, then the closing ones. -/
def disarm (cs : List Char) : List Char :=
  replacePair '*' '/' '_' '/' (replacePair '/' '*' '/' '_' cs)

/-- A line inside a comment. -/
def innerLine (cs : List Char) : String :=
  String.ofList (Text.trimEnd (' ' :: ' ' :: ' ' :: disarm cs))

/-- A source text as a comment, line by line. -/
def ofSource (source : String) : List String :=
  "/*" :: (Text.lines source.toList).map innerLine ++ ["*/"]

end Comment

end ShaderBindings
