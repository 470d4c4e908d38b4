/-
  Warnings about type names that generated code cannot express (`unsupportedTypes`). A use of
  such a name (`Unsupported`) is looked for in the blocks, images and samplers of every shader
  that is embedded; attributes have no types.
-/
import ShaderBindings.Diagnostic
import ShaderBindings.Input
import ShaderBindings.TypeTag

namespace ShaderBindings

/-- A use of an unknown type name in a reflection. -/
inductive Unsupported
  | uniform (block name type : String)
  | imageType (name type : String)
  | sampleType (name type : String)
  | samplerType (name type : String)
deriving DecidableEq, Repr

namespace Unsupported

def describe : Unsupported → String
  | uniform block name type =>
    "uniform '" ++ block ++ "." ++ name ++ "' has unsupported type '" ++ type ++ "'"
  | imageType name type => "image '" ++ name ++ "' has unsupported type '" ++ type ++ "'"
  | sampleType name type => "image '" ++ name ++ "' has unsupported sample type '" ++ type ++ "'"
  | samplerType name type => "sampler '" ++ name ++ "' has unsupported type '" ++ type ++ "'"

def ofBlock (b : UniformBlock) : List Unsupported :=
  (b.uniforms.filter fun u => UniformType.tag u.type = .invalid).map fun u =>
    uniform b.structName u.name u.type

def ofImage (i : Image) : List Unsupported :=
  (if imageTag i.type = .invalid then [imageType i.name i.type] else [])
    ++ (if imageSampleTag i.sampleType = .invalid then [sampleType i.name i.sampleType] else [])

def ofSampler (s : Sampler) : List Unsupported :=
  if samplerTag s.type = .invalid then [samplerType s.name s.type] else []

/-- Blocks first, then images, then samplers. -/
def ofReflection (r : StageReflection) : List Unsupported :=
  r.uniformBlocks.flatMap ofBlock ++ r.images.flatMap ofImage ++ r.samplers.flatMap ofSampler

/-- The uses in the shaders that are embedded, in order of declaration. -/
def ofBackend (inp : ShaderInput) (b : BackendOutput) : List Unsupported :=
  inp.shaders.flatMap fun s =>
    match b.source? s.name with
    | none => []
    | some source => ofReflection source.reflection

def diagnostic (basePath : String) (slang : Slang) (u : Unsupported) : Diagnostic :=
  ⟨.unsupportedType, u.describe ++ " in " ++ slang.name ++ " reflection", basePath, 0, .warning⟩

end Unsupported

/-- The warnings about the output for one language. -/
def unsupportedTypes (inp : ShaderInput) (b : BackendOutput) : List Diagnostic :=
  (Unsupported.ofBackend inp b).map (Unsupported.diagnostic inp.basePath b.slang)

end ShaderBindings
