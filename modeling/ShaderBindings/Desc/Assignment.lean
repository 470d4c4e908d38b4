/-
  The statements that fill in a shader description: an `Assignment` is a place in the
  description (`Place`, `StagePlace`) and a `Value` for it. `Assignment.line` is the text of a
  statement; the indices of slots are part of the place.
-/
import ShaderBindings.Text.Decimal
import ShaderBindings.TypeTag

namespace ShaderBindings.Desc

inductive AttrField
  | name
  | semName
  | semIndex
deriving DecidableEq, Repr

inductive UniformField
  | name
  | type
  | arrayCount
deriving DecidableEq, Repr

inductive BlockField
  | size
  | layout
  | uniform (index : Nat) (f : UniformField)
deriving DecidableEq, Repr

inductive ImageField
  | used
  | multisampled
  | imageType
  | sampleType
deriving DecidableEq, Repr

inductive SamplerField
  | used
  | samplerType
deriving DecidableEq, Repr

inductive PairField
  | used
  | imageSlot
  | samplerSlot
  | glslName
deriving DecidableEq, Repr

/-- A place inside the description of one stage. -/
inductive StagePlace
  | bytecodePtr
  | bytecodeSize
  | source
  | target
  | entry
  | block (slot : Nat) (f : BlockField)
  | image (slot : Nat) (f : ImageField)
  | sampler (slot : Nat) (f : SamplerField)
  | pair (slot : Nat) (f : PairField)
deriving DecidableEq, Repr

inductive Place
  | attr (slot : Nat) (f : AttrField)
  | stage (stage : String) (p : StagePlace)
  | label
deriving DecidableEq, Repr

/-- What is assigned. The address of an array stands for a pointer to its bytes, or for a text
that ends at its first zero byte. -/
inductive Value
  | text (s : String)
  | number (n : Int)
  | flag (b : Bool)
  | tag (t : Tag)
  | address (array : String)
  | cstring (array : String)
deriving DecidableEq, Repr

structure Assignment where
  place : Place
  value : Value
deriving DecidableEq, Repr

/-! ## Text -/

def indexed (field : String) (n : Nat) : String := field ++ "[" ++ Text.digits n ++ "]"

def AttrField.text : AttrField → String
  | name => "name"
  | semName => "sem_name"
  | semIndex => "sem_index"

def UniformField.text : UniformField → String
  | name => "name"
  | type => "type"
  | arrayCount => "array_count"

def BlockField.text : BlockField → String
  | size => "size"
  | layout => "layout"
  | uniform index f => indexed "uniforms" index ++ "." ++ f.text

def ImageField.text : ImageField → String
  | used => "used"
  | multisampled => "multisampled"
  | imageType => "image_type"
  | sampleType => "sample_type"

def SamplerField.text : SamplerField → String
  | used => "used"
  | samplerType => "sampler_type"

def PairField.text : PairField → String
  | used => "used"
  | imageSlot => "image_slot"
  | samplerSlot => "sampler_slot"
  | glslName => "glsl_name"

def StagePlace.text : StagePlace → String
  | bytecodePtr => "bytecode.ptr"
  | bytecodeSize => "bytecode.size"
  | source => "source"
  | target => "d3d11_target"
  | entry => "entry"
  | block slot f => indexed "uniform_blocks" slot ++ "." ++ f.text
  | image slot f => indexed "images" slot ++ "." ++ f.text
  | sampler slot f => indexed "samplers" slot ++ "." ++ f.text
  | pair slot f => indexed "image_sampler_pairs" slot ++ "." ++ f.text

def Place.text : Place → String
  | attr slot f => "desc." ++ indexed "attrs" slot ++ "." ++ f.text
  | stage s p => "desc." ++ s ++ "." ++ p.text
  | label => "desc.label"

def flagText (b : Bool) : String := if b then "true" else "false"

def Value.render : Value → String
  | text s => "\x22" ++ s ++ "\x22"
  | number n => Text.numeral n
  | flag b => flagText b
  | tag t => t.text
  | address array => "&" ++ array
  | cstring array => "transmute(cstring)&" ++ array

def Assignment.line (indent : String) (a : Assignment) : String :=
  indent ++ a.place.text ++ " = " ++ a.value.render

end ShaderBindings.Desc
