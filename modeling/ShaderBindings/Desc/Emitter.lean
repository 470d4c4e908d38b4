/-
  The shader description of a program for one target language (`Emitter.program`), as
  statements. The families share the order of the statements and differ in what they bind by
  name: GLSL attributes, uniforms and pairs of image and sampler, HLSL attribute semantics and
  the compile target (`Emitter.target?`), the others nothing. An `Emitter` carries that its
  language is of its family; what keeps a description from being made is an `EmitterFault` or a
  `DescFault`.
-/
import ShaderBindings.Desc.Assignment
import ShaderBindings.Layout.Rounding
import ShaderBindings.Payload.Basic
import ShaderBindings.Reflection.Slots

namespace ShaderBindings

/-- A language together with its family. -/
structure Emitter where
  family : Family
  slang : Slang
  agrees : slang.family = family.name

/-- Why there is no emitter. -/
inductive EmitterFault
  | unknownFamily (name : String)
  | otherFamily (wanted : Family) (slang : Slang)
deriving DecidableEq, Repr

namespace Family

/-- The name of the emitter of a family. -/
def emitterName : Family → String
  | glsl => "GlslStageEmitter"
  | hlsl => "HlslStageEmitter"
  | metal => "MetalStageEmitter"
  | wgsl => "WgslStageEmitter"

end Family

def EmitterFault.message : EmitterFault → String
  | unknownFamily name => "No stage emitter for slang family: " ++ name
  | otherFamily wanted slang =>
    wanted.emitterName ++ " cannot emit for " ++ slang.family ++ " slang " ++ slang.name

/-- Why there is no description of a stage or a program. -/
inductive DescFault
  | noReflection (program slang : String)
  | missingPayload (m : MissingPayload)
  /-- A uniform block whose size has no numeral. -/
  | hugeBlock
  | unknownResource (u : UnknownResource)
deriving DecidableEq, Repr

def DescFault.message : DescFault → String
  | noReflection program slang => "program '" ++ program ++ "' has no " ++ slang ++ " reflection"
  | missingPayload m => m.message
  | hugeBlock => Text.tooManyDigits none
  | unknownResource u => u.message

namespace Emitter

/-- The emitter of a family, for a language of that family. -/
def ofFamily (family : Family) (slang : Slang) : Except EmitterFault Emitter :=
  if h : slang.family = family.name then .ok ⟨family, slang, h⟩
  else .error (.otherFamily family slang)

/-- The emitter of a language. -/
def ofSlang (slang : Slang) : Except EmitterFault Emitter :=
  match Family.ofName? slang.family with
  | some family => ofFamily family slang
  | none => .error (.unknownFamily slang.family)

/-- An emitter in messages. -/
def label (e : Emitter) : String := "<" ++ e.family.emitterName ++ " " ++ e.slang.name ++ ">"

/-- The compile target of a stage given as source. -/
def target? (e : Emitter) (stage : String) : Option String :=
  match e.family with
  | .hlsl =>
    let profile := if stage = ProgramStage.vertex.tag then "vs" else "ps"
    some (profile ++ "_" ++ Text.numeral e.slang.version ++ "_0")
  | _ => none

open Desc

def attr (e : Emitter) (slot : Nat) (a : Attr) : List Assignment :=
  match e.family with
  | .glsl => [⟨.attr slot .name, .text a.name⟩]
  | .hlsl => [⟨.attr slot .semName, .text a.semName⟩, ⟨.attr slot .semIndex, .number a.semIndex⟩]
  | _ => []

/-- The uniforms of a block: an array of four-vectors for a flattened one. -/
def uniforms (e : Emitter) (stage : String) (slot : Nat) (b : UniformBlock) : List Assignment :=
  let place (index : Nat) (f : UniformField) : Place :=
    .stage stage (.block slot (.uniform index f))
  match e.family, b.uniforms with
  | .glsl, [] => []
  | .glsl, first :: rest =>
    if b.flattened then
      [⟨place 0 .name, .text b.structName⟩,
       ⟨place 0 .type, .tag (UniformType.flattenedTag first.type)⟩,
       ⟨place 0 .arrayCount, .number (Layout.roundUp b.size 16 / 16)⟩]
    else
      (first :: rest).zipIdx.flatMap fun (u, index) =>
        [⟨place index .name, .text (b.instName ++ "." ++ u.name)⟩,
         ⟨place index .type, .tag (UniformType.tag u.type)⟩,
         ⟨place index .arrayCount, .number u.arrayCount⟩]
  | _, _ => []

def pairName (e : Emitter) (stage : String) (slot : Nat) (p : ImageSampler) : List Assignment :=
  match e.family with
  | .glsl => [⟨.stage stage (.pair slot .glslName), .text p.name⟩]
  | _ => []

/-! ## Stages -/

/-- Where the code of a stage comes from. -/
def code (e : Emitter) (stage : String) (p : Payload) : List Assignment :=
  if p.isBytecode then
    [⟨.stage stage .bytecodePtr, .address p.arrayName⟩,
     ⟨.stage stage .bytecodeSize, .number p.data.length⟩]
  else
    ⟨.stage stage .source, .cstring p.arrayName⟩
      :: (e.target? stage).toList.map fun target => ⟨.stage stage .target, .text target⟩

/-- A block, with its size rounded up. -/
def block (e : Emitter) (stage : String) (slot : Nat) (b : UniformBlock) :
    Except DescFault (List Assignment) :=
  let size := Layout.roundUp b.size 16
  if Text.hasNumeral size then
    .ok ([⟨.stage stage (.block slot .size), .number size⟩,
      ⟨.stage stage (.block slot .layout), .tag (.known ".STD140")⟩]
        ++ e.uniforms stage slot b)
  else .error .hugeBlock

def image (stage : String) (slot : Nat) (i : Image) : List Assignment :=
  [⟨.stage stage (.image slot .used), .flag true⟩,
   ⟨.stage stage (.image slot .multisampled), .flag i.multisampled⟩,
   ⟨.stage stage (.image slot .imageType), .tag (imageTag i.type)⟩,
   ⟨.stage stage (.image slot .sampleType), .tag (imageSampleTag i.sampleType)⟩]

def sampler (stage : String) (slot : Nat) (s : Sampler) : List Assignment :=
  [⟨.stage stage (.sampler slot .used), .flag true⟩,
   ⟨.stage stage (.sampler slot .samplerType), .tag (samplerTag s.type)⟩]

/-- A pair of image and sampler, which the reflection must name both. -/
def pair (e : Emitter) (stage : String) (r : StageReflection) (slot : Nat) (p : ImageSampler) :
    Except UnknownResource (List Assignment) := do
  let image ← r.named? Image p.imageName
  let sampler ← r.named? Sampler p.samplerName
  return [⟨.stage stage (.pair slot .used), .flag true⟩,
     ⟨.stage stage (.pair slot .imageSlot), .number image.slot⟩,
     ⟨.stage stage (.pair slot .samplerSlot), .number sampler.slot⟩]
    ++ e.pairName stage slot p

/-- The statements for resources in order of their slots, up to the first fault. -/
def gather (describe : Nat → α → Except ε (List Assignment)) :
    List (Nat × α) → Except ε (List Assignment)
  | [] => .ok []
  | (slot, a) :: rest => do
    let here ← describe slot a
    let more ← gather describe rest
    return here ++ more

/-- One stage, backed by a payload. -/
def stage (e : Emitter) (stage : String) (r : StageReflection) (p : Payload) :
    Except DescFault (List Assignment) := do
  let blocks ← gather (e.block stage) (r.occupied UniformBlock)
  let bound ← (gather (e.pair stage r) (r.occupied ImageSampler)).mapError .unknownResource
  return e.code stage p ++ [⟨.stage stage .entry, .text r.entryPoint⟩]
    ++ blocks
    ++ (r.occupied Image).flatMap (fun (slot, i) => image stage slot i)
    ++ (r.occupied Sampler).flatMap (fun (slot, s) => sampler stage slot s)
    ++ bound

end Emitter

/-! ## Programs -/

namespace Emitter

open Desc

/-- One stage of a program, with the payload of its snippet. -/
def programStage (e : Emitter) (namePrefix : String) (program : Program) (b : BackendOutput)
    (s : ProgramStage) (source : StageSource) : Except DescFault (List Assignment) := do
  let payload ← (Payload.ofSnippet namePrefix (program.snippet s) b).mapError .missingPayload
  e.stage s.tag source.reflection payload

/-- The description of a program. -/
def program (e : Emitter) (namePrefix : String) (program : Program) (b : BackendOutput) :
    Except DescFault (List Assignment) :=
  match b.source? program.vsName, b.source? program.fsName with
  | some vs, some fs => do
    let vertex ← e.programStage namePrefix program b .vertex vs
    let fragment ← e.programStage namePrefix program b .fragment fs
    return (vs.reflection.occupied Attr).flatMap (fun (slot, a) => e.attr slot a)
      ++ vertex ++ fragment
      ++ [⟨.label, .text (namePrefix ++ program.name ++ "_shader")⟩]
  | _, _ => .error (.noReflection program.name e.slang.name)

end Emitter

end ShaderBindings
