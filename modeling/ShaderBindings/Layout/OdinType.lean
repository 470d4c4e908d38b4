/-
  The Odin types of record fields (`OdinType.ofUniform`). A uniform has the type of its shape,
  or the host type that a mapping gives its type name; in an array every element takes a
  multiple of 16 bytes (`OdinType.element`, `OdinType.hostElement`). How large a host type is,
  is not known here.
-/
import ShaderBindings.Json.Display
import ShaderBindings.Reflection.Basic
import ShaderBindings.TypeTag

namespace ShaderBindings

/-- Host types by uniform type name. A host type is written as given. -/
abbrev HostTypes := Named Json

inductive OdinType
  | f32
  | i32
  | host (type : Json)
  | array (count : Int) (element : OdinType)
  | padded (element : OdinType) (padding : Nat)
deriving BEq, Repr

namespace OdinType

/-- The text of a type. -/
def text : OdinType → String
  | f32 => "f32"
  | i32 => "i32"
  | host type => type.display
  | array count element => "[" ++ Text.numeral count ++ "]" ++ element.text
  | padded element padding =>
    "struct \x7b v: " ++ element.text ++ ", _: [" ++ Text.digits padding ++ "]u8 \x7d"

/-- The scalar type of a uniform type. -/
def scalar (t : UniformType) : OdinType := if t.isInteger then i32 else f32

/-- The type of a single value. -/
def single (t : UniformType) : OdinType :=
  if t.components = 1 then scalar t else array t.components (scalar t)

/-- The type of an array element: a matrix, or any other value widened to four scalars. -/
def element (t : UniformType) : OdinType :=
  if t = .mat4 then single t else array 4 (scalar t)

/-- The type of an array element that stands for a host type. An unknown uniform type is taken
to fill its element. -/
def hostElement (uniformType : String) (type : Json) : OdinType :=
  let size := ((UniformType.ofName? uniformType).map UniformType.size).getD 16
  if size % 16 = 0 then host type else padded (host type) (16 - size)

/-- The type of a uniform, if it has one. -/
def ofUniform (hosts : HostTypes) (u : Uniform) : Option OdinType :=
  match hosts.get? u.type with
  | some type =>
    if u.arrayCount = 1 then
      match type with
      | .null => none
      | type => some (host type)
    else some (array u.arrayCount (hostElement u.type type))
  | none =>
    (UniformType.ofName? u.type).map fun t =>
      if u.arrayCount = 1 then single t else array u.arrayCount (element t)

end OdinType

end ShaderBindings
