/-
  Reflection dumps (`Dump`): the input, the output for each language, the verbatim lines and the
  host types, taken out of a JSON value by `Dump.ofJsonBy`, one function for each record in it.
  Of several faults the first in the order of the fields below counts. Texts are taken as a
  `TextReader` says; the name of the module, the verbatim lines and the host types are kept as
  they are in any case. `Dump.ofJson` is the reading that takes texts only.
-/
import ShaderBindings.Dump.Decode
import ShaderBindings.Input
import ShaderBindings.Layout.OdinType

namespace ShaderBindings

/-- The contents of a dump. The name of the module, verbatim lines and host types are kept as they
are. -/
structure Dump where
  input : ShaderInput
  backends : Backends := []
  verbatim : List Json := []
  hosts : HostTypes := []
deriving Repr

namespace Dump

variable (read : TextReader)

def attr (v : Json) : Except DumpFault Attr := do
  return ⟨← v.intField "slot", ← v.textField read "name",
    ← v.textFieldOr read "sem_name" "TEXCOORD", ← v.intFieldOr "sem_index" 0⟩

def uniform (v : Json) : Except DumpFault Uniform := do
  return ⟨← v.textField read "name", ← v.textField read "type", ← v.intField "offset",
    ← v.intFieldOr "array_count" 1⟩

def uniformBlock (v : Json) : Except DumpFault UniformBlock := do
  let slot ← v.intField "slot"
  let size ← v.intField "size"
  let structName ← v.textField read "struct_name"
  let instName ← v.textFieldOr read "inst_name" ""
  let flattened ← v.fieldOr "flattened" (.bool false)
  let uniforms ← v.listField "uniforms" (uniform read)
  return ⟨slot, size, structName, instName, uniforms, flattened.truthy⟩

def image (v : Json) : Except DumpFault Image := do
  return ⟨← v.intField "slot", ← v.textField read "name", ← v.textFieldOr read "type" "2d",
    ← v.textFieldOr read "sample_type" "float", (← v.fieldOr "multisampled" (.bool false)).truthy⟩

def sampler (v : Json) : Except DumpFault Sampler := do
  return ⟨← v.intField "slot", ← v.textField read "name", ← v.textFieldOr read "type" "sample"⟩

def imageSampler (v : Json) : Except DumpFault ImageSampler := do
  return ⟨← v.intField "slot", ← v.textField read "name", ← v.textField read "image_name",
    ← v.textField read "sampler_name"⟩

def reflection (v : Json) : Except DumpFault StageReflection := do
  return ⟨← v.textField read "stage", ← v.textFieldOr read "entry_point" "main",
    ← v.listField "inputs" (attr read), ← v.listField "uniform_blocks" (uniformBlock read),
    ← v.listField "images" (image read), ← v.listField "samplers" (sampler read),
    ← v.listField "image_samplers" (imageSampler read)⟩

def stageSource (v : Json) : Except DumpFault StageSource := do
  return ⟨← v.textField read "snippet", ← v.textField read "source",
    ← reflection read (← v.field "reflection")⟩

def blob (entry : String × Json) : Except DumpFault Blob := do
  return ⟨entry.1, ← entry.2.asBytes⟩

def backend (slang : Slang) (v : Json) : Except DumpFault BackendOutput := do
  let sources ← v.listField "sources" (stageSource read)
  let bytecode ← (← v.fieldOr "bytecode" (.object [])).namedFields
  return ⟨slang, sources, ← bytecode.mapM blob⟩

/-- The output for a language given by name. -/
def namedBackend (entry : String × Json) : Except DumpFault (String × BackendOutput) :=
  match Slang.ofName? entry.1 with
  | none => .error (.unknownSlang entry.1)
  | some slang => do return (entry.1, ← backend read slang entry.2)

def snippet (v : Json) : Except DumpFault Snippet := do
  return ⟨← v.textField read "name", ← v.textField read "stage"⟩

def program (v : Json) : Except DumpFault Program := do
  return ⟨← v.textField read "name", ← v.textField read "vs", ← v.textField read "fs",
    ← v.intFieldOr "line" 0⟩

/-- Takes a dump out of a value. The base path is for a dump that does not name one. -/
def ofJsonBy (basePath : String) (v : Json) : Except DumpFault Dump := do
  let input : ShaderInput :=
    ⟨← v.textFieldOr read "base_path" basePath, ← v.fieldOr "module" (.text ""),
      ← v.listField "snippets" (snippet read), ← v.listField "programs" (program read)⟩
  let backends ← (← (← v.fieldOr "backends" (.object [])).namedFields).mapM (namedBackend read)
  let verbatim ← (← v.fieldOr "headers" (.array [])).items
  let hosts ← (← v.fieldOr "ctypes" (.object [])).asNamed read
  return ⟨input, backends, verbatim, hosts⟩

/-- Takes a dump that has texts where they are due out of a value. -/
def ofJson (basePath : String) (v : Json) : Except DumpFault Dump :=
  ofJsonBy Json.asText basePath v

end Dump

end ShaderBindings
