/-
  The declarations of a module: constants for attributes and slots (`attrConstants`,
  `imageConstants`, `samplerConstants`), arrays for payloads (`Embedded`), and a procedure for
  each program (`DescProcedure`) with a case for each language (`DescCase`). A `SectionFault`
  says what is missing for one of them. Records are in `Layout.Record`.
-/
import ShaderBindings.Desc.Emitter
import ShaderBindings.Module.Overview
import ShaderBindings.Module.Shared
import ShaderBindings.Payload.Embedding

namespace ShaderBindings

/-- Why a section cannot be written. -/
inductive SectionFault
  | missingSource (m : Overview.MissingSource)
  | missingPayload (m : MissingPayload)
  | missingBackend (slang : String)
  | emitter (f : EmitterFault)
  | desc (f : DescFault)
deriving DecidableEq, Repr

/-- The message of a fault. A source that is not there has none. -/
def SectionFault.message? : SectionFault → Option String
  | missingSource _ => none
  | missingPayload m => some m.message
  | missingBackend slang => some (Text.quoted slang)
  | emitter f => some f.message
  | desc f => some f.message

/-- The constants for the attributes of every vertex shader that is embedded. -/
def attrConstants (inp : ShaderInput) (b : BackendOutput) :
    Except Overview.MissingSource (List Constant) := do
  let vertexShaders := inp.shaders.filter (·.stage == ProgramStage.vertex.tag)
  let constants ← vertexShaders.mapM fun s =>
    match b.source? s.name with
    | none => Except.error ⟨s.name⟩
    | some source =>
      .ok ((source.reflection.occupied Attr).map fun (slot, a) =>
        a.constant inp.namePrefix s.name slot)
  return constants.flatten

def imageConstants (inp : ShaderInput) (b : BackendOutput) : List Constant :=
  (sharedResources Image inp b).map fun i => .slot inp.namePrefix i.name i.slot

def samplerConstants (inp : ShaderInput) (b : BackendOutput) : List Constant :=
  (sharedResources Sampler inp b).map fun s => .slot inp.namePrefix s.name s.slot

/-- A source text as a comment, and the array of its payload. -/
structure Embedded where
  source : String
  payload : Payload
deriving DecidableEq, Repr

namespace Embedded

def lines (e : Embedded) : List String :=
  Comment.ofSource e.source ++ Payload.arrayLines e.payload.arrayName e.payload.data

/-- A shader as it is embedded for one language. -/
def ofShader (namePrefix : String) (b : BackendOutput) (s : Snippet) :
    Except SectionFault Embedded :=
  match Payload.ofSnippet namePrefix s.name b, b.source? s.name with
  | .error m, _ => .error (.missingPayload m)
  | .ok _, none => .error (.missingSource ⟨s.name⟩)
  | .ok payload, some source => .ok ⟨source.sourceCode, payload⟩

/-- All shaders as they are embedded for one language. -/
def ofBackend (inp : ShaderInput) (b : BackendOutput) : Except SectionFault (List Embedded) :=
  inp.shaders.mapM (ofShader inp.namePrefix b)

end Embedded

/-- One case of a procedure: the label of a backend and the statements for it. -/
structure DescCase where
  label : String
  body : List Desc.Assignment
deriving DecidableEq, Repr

namespace DescCase

def lines (c : DescCase) : List String :=
  ("        case " ++ c.label ++ ": \x7b")
    :: c.body.map (Desc.Assignment.line (String.ofList (List.replicate 12 ' ')))
    ++ ["        \x7d"]

/-- The case of one language. -/
def ofSlang (inp : ShaderInput) (backends : Backends) (p : Program) (slang : Slang) :
    Except SectionFault DescCase := do
  let emitter ← (Emitter.ofSlang slang).mapError .emitter
  match backends.get? slang.name with
  | none => .error (.missingBackend slang.name)
  | some b =>
    let body ← (emitter.program inp.namePrefix p b).mapError .desc
    return ⟨slang.backend, body⟩

end DescCase

/-- The procedure that returns the description of a program for the backend at hand. -/
structure DescProcedure where
  name : String
  cases : List DescCase
deriving DecidableEq, Repr

namespace DescProcedure

/-- The lines up to the first case. -/
def opening (p : DescProcedure) : List String :=
  [p.name ++ " :: proc (backend: sg.Backend) -> sg.Shader_Desc \x7b",
   "    desc: sg.Shader_Desc",
   "    #partial switch backend \x7b"]

/-- The lines after the last case. -/
def closing : List String := ["    \x7d", "    return desc", "\x7d"]

def lines (p : DescProcedure) : List String :=
  p.opening ++ p.cases.flatMap DescCase.lines ++ closing

/-- The procedure of a program, with a case for each of the languages in order. -/
def ofProgram (inp : ShaderInput) (backends : Backends) (slangs : List Slang) (p : Program) :
    Except SectionFault DescProcedure := do
  let cases ← slangs.mapM (DescCase.ofSlang inp backends p)
  return ⟨Overview.procedureName inp.namePrefix p, cases⟩

end DescProcedure

end ShaderBindings
