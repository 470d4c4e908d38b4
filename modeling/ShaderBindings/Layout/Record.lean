/-
  The declarations of a uniform block (`UniformBlock.lines`): the constant of its slot
  (`Constant`), and a `Record` whose fields are the segments of its layout, in the same order.
-/
import ShaderBindings.Identifier
import ShaderBindings.Layout.Block

namespace ShaderBindings

/-- A named integer. -/
structure Constant where
  name : String
  value : Int
deriving DecidableEq, Repr

namespace Constant

/-- The declaration of a constant. -/
def line (c : Constant) : String := c.name ++ " :: " ++ Text.numeral c.value

/-- The constant in running text. -/
def mention (c : Constant) : String := c.name ++ " = " ++ Text.numeral c.value

/-- The constant of a slot. -/
def slot (namePrefix name : String) (value : Int) : Constant :=
  ⟨"SLOT_" ++ namePrefix ++ name, value⟩

end Constant

/-- A field of a record. A uniform without a type is a field that does not compile. -/
inductive RecordField
  | padding (size : Int)
  | unsupported
  | named (name : String) (type : OdinType)
deriving BEq, Repr

namespace RecordField

def ofSegment : Layout.Segment → RecordField
  | .padding n => padding n
  | .field f =>
    match f.type with
    | none => unsupported
    | some type => named f.uniform.name type

def line : RecordField → String
  | padding n => "    _: [" ++ Text.numeral n ++ "]u8,"
  | unsupported => "    INVALID_UNIFORM_TYPE,"
  | named name type => "    " ++ name ++ ": " ++ type.text ++ ","

end RecordField

structure Record where
  name : String
  fields : List RecordField
deriving BEq, Repr

def Record.lines (r : Record) : List String :=
  (r.name ++ " :: struct \x7b") :: r.fields.map RecordField.line ++ ["\x7d"]

namespace UniformBlock

def slotConstant (namePrefix : String) (b : UniformBlock) : Constant :=
  .slot namePrefix b.structName b.slot

def recordName (namePrefix : String) (b : UniformBlock) : String :=
  adaCase (namePrefix ++ b.structName)

def record (namePrefix : String) (hosts : HostTypes) (b : UniformBlock) : Record :=
  ⟨b.recordName namePrefix, (BlockLayout.ofBlock hosts b).segments.map RecordField.ofSegment⟩

/-- The declarations of a block, line by line. -/
def lines (namePrefix : String) (hosts : HostTypes) (b : UniformBlock) : List String :=
  (b.slotConstant namePrefix).line :: (b.record namePrefix hosts).lines

end UniformBlock

end ShaderBindings
