/-
  The type names that reflection uses, and the enumeration values they stand for in a shader
  description (`Tag`): `UniformType.tag` and `UniformType.flattenedTag`, `imageTag`,
  `imageSampleTag`, `samplerTag`. A name outside its table has the invalid tag.
  `UniformType.size` is the size of a single value, as the layout needs it.
-/

namespace ShaderBindings

/-- An enumeration value of a shader description. -/
inductive Tag
  | known (name : String)
  | invalid
deriving DecidableEq, Repr

namespace Tag

def text : Tag → String
  | known name => name
  | invalid => "INVALID"

def ofOption : Option String → Tag
  | some name => known name
  | none => invalid

end Tag

/-- The uniform types that records and descriptions can hold. -/
inductive UniformType
  | float
  | vec2
  | vec3
  | vec4
  | int
  | ivec2
  | ivec3
  | ivec4
  | mat4
deriving DecidableEq, Repr

namespace UniformType

def all : List UniformType := [.float, .vec2, .vec3, .vec4, .int, .ivec2, .ivec3, .ivec4, .mat4]

def name : UniformType → String
  | float => "float"
  | vec2 => "vec2"
  | vec3 => "vec3"
  | vec4 => "vec4"
  | int => "int"
  | ivec2 => "ivec2"
  | ivec3 => "ivec3"
  | ivec4 => "ivec4"
  | mat4 => "mat4"

def ofName? (name : String) : Option UniformType := all.find? (·.name == name)

def isInteger : UniformType → Bool
  | int | ivec2 | ivec3 | ivec4 => true
  | _ => false

/-- How many scalars a value has. -/
def components : UniformType → Nat
  | float | int => 1
  | vec2 | ivec2 => 2
  | vec3 | ivec3 => 3
  | vec4 | ivec4 => 4
  | mat4 => 16

/-- The size of a single value in bytes; a scalar has four. -/
def size (t : UniformType) : Nat := 4 * t.components

def tagName : UniformType → String
  | float => ".FLOAT"
  | vec2 => ".FLOAT2"
  | vec3 => ".FLOAT3"
  | vec4 => ".FLOAT4"
  | int => ".INT"
  | ivec2 => ".INT2"
  | ivec3 => ".INT3"
  | ivec4 => ".INT4"
  | mat4 => ".MAT4"

/-- The element of the array of four-vectors that stands for a flattened block. -/
def flattenedName (t : UniformType) : String := if t.isInteger then ".INT4" else ".FLOAT4"

/-- The tag of a uniform type. -/
def tag (name : String) : Tag := .ofOption ((ofName? name).map tagName)

/-- The tag of a flattened block whose first uniform has the type. -/
def flattenedTag (name : String) : Tag := .ofOption ((ofName? name).map flattenedName)

end UniformType

/-- The tag of an image type. -/
def imageTag (name : String) : Tag :=
  .ofOption ([("2d", "._2D"), ("cube", ".CUBE"), ("3d", "._3D"), ("array", ".ARRAY")].lookup name)

/-- The tag of what sampling an image yields. -/
def imageSampleTag (name : String) : Tag :=
  .ofOption
    ([("float", ".FLOAT"), ("depth", ".DEPTH"), ("sint", ".SINT"), ("uint", ".UINT")].lookup name)

/-- The tag of a sampler type. -/
def samplerTag (name : String) : Tag :=
  .ofOption ([("sample", ".SAMPLE"), ("compare", ".COMPARE")].lookup name)

end ShaderBindings
