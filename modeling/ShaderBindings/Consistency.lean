/-
  What the output for one language must hold before anything is generated from it: a source of
  the right stage for both snippets of every program (`Violation.ofStage`), a source for every
  shader that is embedded, and an image and a sampler for every pair in its reflection
  (`Violation.ofPair`). Programs are checked by name, snippets in order of declaration;
  `checkConsistency` reports the first of `Violation.all`. That the snippets of a program are
  declared, and that a source has the stage with which its snippet is declared, is not among the
  checks.
-/
import ShaderBindings.Diagnostic
import ShaderBindings.Input
import ShaderBindings.Reflection.Slots

namespace ShaderBindings

inductive Violation
  | missingBackend
  | missingStage (program : Program) (stage : ProgramStage)
  | wrongStage (program : Program) (stage : ProgramStage) (reflected : String)
  | missingSource (snippet : String)
  | unresolvedPair (pair snippet : String) (u : UnknownResource)
deriving DecidableEq, Repr

namespace Violation

def code : Violation → DiagnosticCode
  | unresolvedPair .. => .unresolvedReference
  | _ => .reflectionInconsistency

/-- The line of the program that is at fault, zero where none is. -/
def line : Violation → Int
  | missingStage p _ => p.line
  | wrongStage p _ _ => p.line
  | _ => 0

def message (slang : Slang) : Violation → String
  | missingBackend => "no reflection output for shading language '" ++ slang.name ++ "'"
  | missingStage p s =>
    "no " ++ slang.name ++ " reflection for " ++ s.label ++ " shader '" ++ p.snippet s
      ++ "' of program '" ++ p.name ++ "'"
  | wrongStage p s reflected =>
    "shader '" ++ p.snippet s ++ "' of program '" ++ p.name ++ "' is used as " ++ s.label
      ++ " shader but reflected as '" ++ reflected ++ "' (" ++ slang.name ++ ")"
  | missingSource snippet => "no " ++ slang.name ++ " reflection for shader '" ++ snippet ++ "'"
  | unresolvedPair pair snippet u =>
    "image-sampler pair '" ++ pair ++ "' in shader '" ++ snippet ++ "' (" ++ slang.name ++ "): "
      ++ u.message

def diagnostic (basePath : String) (slang : Slang) (v : Violation) : Diagnostic :=
  ⟨v.code, v.message slang, basePath, v.line, .error⟩

/-! ## Finding them -/

/-- What is wrong with one stage of a program. -/
def ofStage (b : BackendOutput) (p : Program) (s : ProgramStage) : Option Violation :=
  match b.source? (p.snippet s) with
  | none => some (missingStage p s)
  | some source =>
    if source.reflection.stage = s.tag then none
    else some (wrongStage p s source.reflection.stage)

/-- What is wrong with a pair of image and sampler; the image is looked up first. -/
def ofPair (snippet : String) (r : StageReflection) (p : ImageSampler) : Option Violation :=
  match r.named? Image p.imageName with
  | .error u => some (unresolvedPair p.name snippet u)
  | .ok _ =>
    match r.named? Sampler p.samplerName with
    | .error u => some (unresolvedPair p.name snippet u)
    | .ok _ => none

/-- What is wrong with a shader that is embedded. -/
def ofShader (b : BackendOutput) (s : Snippet) : List Violation :=
  match b.source? s.name with
  | none => [missingSource s.name]
  | some source => source.reflection.imageSamplers.filterMap (ofPair s.name source.reflection)

/-- All that is wrong with the output for a language, in the order of the checks. -/
def all (inp : ShaderInput) : Option BackendOutput → List Violation
  | none => [missingBackend]
  | some b =>
    inp.sortedPrograms.flatMap (fun p => [.vertex, .fragment].filterMap (ofStage b p))
      ++ inp.shaders.flatMap (ofShader b)

end Violation

/-- Accepts the output for a language, or reports the first violation. -/
def checkConsistency (inp : ShaderInput) (slang : Slang) (b : Option BackendOutput) :
    Except Diagnostic Unit :=
  match Violation.all inp b with
  | [] => .ok ()
  | v :: _ => .error (v.diagnostic inp.basePath slang)

end ShaderBindings
