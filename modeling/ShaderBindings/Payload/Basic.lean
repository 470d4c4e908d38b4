/-
  The byte array that backs one shader stage for one target language (`Payload.ofSnippet`):
  bytecode where there is some, the source text with a zero behind it otherwise
  (`Payload.ofSource`).
-/
import ShaderBindings.Input

namespace ShaderBindings

structure Payload where
  arrayName : String
  data : Bytes
  isBytecode : Bool
deriving DecidableEq, Repr

/-- A snippet that was not compiled for a language at all. -/
structure MissingPayload where
  slang : String
  snippet : String
deriving DecidableEq, Repr

def MissingPayload.message (m : MissingPayload) : String :=
  "no " ++ m.slang ++ " source for snippet '" ++ m.snippet ++ "'"

namespace Payload

/-- The bytes of a source text, with a zero at the end. -/
def ofSource (source : String) : Bytes := Bytes.ofText source ++ [0]

/-- The array of a snippet: its bytecode if it has any, else its source. -/
def ofSnippet (namePrefix snippet : String) (b : BackendOutput) : Except MissingPayload Payload :=
  match b.blob? snippet with
  | some blob => .ok ⟨namePrefix ++ snippet ++ "_bytecode_" ++ b.slang.name, blob.data, true⟩
  | none =>
    match b.source? snippet with
    | some source =>
      .ok ⟨namePrefix ++ snippet ++ "_source_" ++ b.slang.name, ofSource source.sourceCode, false⟩
    | none => .error ⟨b.slang.name, snippet⟩

end Payload

end ShaderBindings
