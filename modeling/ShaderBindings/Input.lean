/-
  What a module is generated from: the description of one annotated shader file (`ShaderInput`),
  and for each target language the compiled sources, their reflection, and precompiled bytecode
  (`BackendOutput`). What names the module is kept as a JSON value and only shown where it is
  used (`ShaderInput.namePrefix`).
-/
import ShaderBindings.Bytes.Utf8
import ShaderBindings.Json.Display
import ShaderBindings.Reflection.Basic
import ShaderBindings.Slang

namespace ShaderBindings

/-- The two stages of a program. -/
inductive ProgramStage
  | vertex
  | fragment
deriving DecidableEq, Repr

namespace ProgramStage

/-- The stage in reflection and in generated code. -/
def tag : ProgramStage → String
  | vertex => "vs"
  | fragment => "fs"

/-- The stage in messages. -/
def label : ProgramStage → String
  | vertex => "vertex"
  | fragment => "fragment"

end ProgramStage

/-- A named part of a shader file. Only vertex and fragment shaders are embedded. -/
structure Snippet where
  name : String
  stage : String
deriving DecidableEq, Repr, Inhabited

def Snippet.isShader (s : Snippet) : Bool :=
  s.stage == ProgramStage.vertex.tag || s.stage == ProgramStage.fragment.tag

/-- A vertex and a fragment shader under one name, declared at a line of the shader file. -/
structure Program where
  name : String
  vsName : String
  fsName : String
  line : Int := 0
deriving DecidableEq, Repr, Inhabited

/-- The snippet that a program uses for a stage. -/
def Program.snippet (p : Program) : ProgramStage → String
  | .vertex => p.vsName
  | .fragment => p.fsName

/-- A shader file, the same for every target language. What names the module is kept as it is. -/
structure ShaderInput where
  basePath : String
  module : Json := .text ""
  snippets : List Snippet := []
  programs : List Program := []
deriving Repr, Inhabited

namespace ShaderInput

/-- What every generated identifier starts with: the module's name, if there is one. -/
def namePrefix (inp : ShaderInput) : String :=
  if inp.module.truthy then inp.module.display ++ "_" else ""

/-- The programs by name; programs of one name stay in order. -/
def sortedPrograms (inp : ShaderInput) : List Program :=
  inp.programs.mergeSort fun a b => a.name ≤ b.name

/-- The snippets that are embedded, in order of declaration. -/
def shaders (inp : ShaderInput) : List Snippet := inp.snippets.filter Snippet.isShader

end ShaderInput

/-- The source of one snippet for one target language, and its reflection. -/
structure StageSource where
  snippetName : String
  sourceCode : String
  reflection : StageReflection
deriving DecidableEq, Repr, Inhabited

structure Blob where
  snippetName : String
  data : Bytes
deriving DecidableEq, Repr, Inhabited

/-- All that was compiled for one target language. -/
structure BackendOutput where
  slang : Slang
  sources : List StageSource := []
  blobs : List Blob := []
deriving DecidableEq, Repr, Inhabited

namespace BackendOutput

/-- The first source of a snippet. -/
def source? (b : BackendOutput) (snippet : String) : Option StageSource :=
  b.sources.find? (·.snippetName == snippet)

/-- The first bytecode of a snippet. -/
def blob? (b : BackendOutput) (snippet : String) : Option Blob :=
  b.blobs.find? (·.snippetName == snippet)

end BackendOutput

/-- Compiled output by the name of the language. -/
abbrev Backends := Named BackendOutput

end ShaderBindings
