/-
  What a shader compiler reports about one shader stage (`StageReflection`): vertex attributes
  (`Attr`), uniform blocks (`UniformBlock`), images, samplers, and the pairs of image and
  sampler that are used together (`ImageSampler`). Slots, sizes and counts are integers of any
  size and sign.
-/

namespace ShaderBindings

/-- A vertex attribute. -/
structure Attr where
  slot : Int
  name : String
  semName : String := "TEXCOORD"
  semIndex : Int := 0
deriving DecidableEq, Repr, Inhabited

/-- A uniform of a block, at a byte offset; an array has a count other than one. -/
structure Uniform where
  name : String
  type : String
  offset : Int
  arrayCount : Int := 1
deriving DecidableEq, Repr, Inhabited

structure UniformBlock where
  slot : Int
  size : Int
  structName : String
  instName : String := ""
  uniforms : List Uniform := []
  flattened : Bool := false
deriving DecidableEq, Repr, Inhabited

structure Image where
  slot : Int
  name : String
  type : String := "2d"
  sampleType : String := "float"
  multisampled : Bool := false
deriving DecidableEq, Repr, Inhabited

structure Sampler where
  slot : Int
  name : String
  type : String := "sample"
deriving DecidableEq, Repr, Inhabited

structure ImageSampler where
  slot : Int
  name : String
  imageName : String
  samplerName : String
deriving DecidableEq, Repr, Inhabited

structure StageReflection where
  stage : String
  entryPoint : String := "main"
  inputs : List Attr := []
  uniformBlocks : List UniformBlock := []
  images : List Image := []
  samplers : List Sampler := []
  imageSamplers : List ImageSampler := []
deriving DecidableEq, Repr, Inhabited

end ShaderBindings
