/-
  The layout of a uniform block in memory (`BlockLayout.ofBlock`): its uniforms in order of
  declaration, padding in front of one that starts later than the one before it ends, and
  padding up to a multiple of 16 bytes at the end. A uniform that states an earlier offset is
  put where the one before it ends; `uniformSize` is what it takes.
-/
import ShaderBindings.Layout.OdinType
import ShaderBindings.Layout.Rounding

namespace ShaderBindings

/-- The bytes that a uniform takes; an array element takes 16 at least, an unknown type none. -/
def uniformSize (type : String) (arrayCount : Int) : Int :=
  match UniformType.ofName? type with
  | none => 0
  | some t => if 1 < arrayCount then max t.size 16 * arrayCount else t.size

namespace Uniform

def size (u : Uniform) : Int := uniformSize u.type u.arrayCount

end Uniform

namespace Layout

/-- A uniform with its type in the record, if it has one. -/
structure Field where
  uniform : Uniform
  type : Option OdinType
deriving BEq, Repr

inductive Segment
  | padding (size : Int)
  | field (f : Field)
deriving BEq, Repr

namespace Segment

def size : Segment → Int
  | padding n => n
  | field f => f.uniform.size

def field? : Segment → Option Field
  | padding _ => none
  | field f => some f

def padding? : Segment → Option Int
  | padding n => some n
  | field _ => none

end Segment

/-- Padding of a positive size, or nothing. -/
def gap (size : Int) : List Segment := if 0 < size then [.padding size] else []

/-- Where the last of the uniforms ends, when the first may start at the cursor. -/
def endFrom (cursor : Int) : List Uniform → Int
  | [] => cursor
  | u :: rest => endFrom (max u.offset cursor + u.size) rest

/-- The segments of uniforms of which the first may start at the cursor. -/
def segmentsFrom (hosts : HostTypes) (cursor : Int) : List Uniform → List Segment
  | [] => gap (roundUp cursor 16 - cursor)
  | u :: rest =>
    gap (u.offset - cursor) ++ .field ⟨u, OdinType.ofUniform hosts u⟩
      :: segmentsFrom hosts (max u.offset cursor + u.size) rest

end Layout

/-- The segments of a block and the size of its record. -/
structure BlockLayout where
  segments : List Layout.Segment
  size : Int
deriving Repr

namespace BlockLayout

def ofBlock (hosts : HostTypes) (b : UniformBlock) : BlockLayout :=
  ⟨Layout.segmentsFrom hosts 0 b.uniforms, Layout.roundUp (Layout.endFrom 0 b.uniforms) 16⟩

def fields (l : BlockLayout) : List Layout.Field := l.segments.filterMap Layout.Segment.field?

def paddings (l : BlockLayout) : List Int := l.segments.filterMap Layout.Segment.padding?

/-- The fields without a type. -/
def unsupported (l : BlockLayout) : List Layout.Field := l.fields.filter (·.type.isNone)

end BlockLayout

end ShaderBindings
