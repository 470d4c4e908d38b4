/-
  JSON values (`Json`). Integers are unbounded, other numbers are exact binary floating point
  values, and an object keeps its fields in the order in which their names first came up. Texts
  are Unicode texts: there is no value for one with an unpaired surrogate.
-/
import ShaderBindings.Keyed
import ShaderBindings.Number.Binary64

namespace ShaderBindings

/-- Entries by name. -/
abbrev Named (α : Type) := Keyed String α

inductive Json
  | null
  | bool (b : Bool)
  | int (n : Int)
  | float (x : Binary64)
  | text (s : String)
  | array (items : List Json)
  | object (fields : List (String × Json))
deriving BEq, Repr, Inhabited

namespace Json

/-- The text of a string value. -/
def text? : Json → Option String
  | text s => some s
  | _ => none

/-- Whether a value counts as true: all but null, false, zeros and what is empty. -/
def truthy : Json → Bool
  | null => false
  | bool b => b
  | int n => n != 0
  | float x => !x.isZero
  | text s => s != ""
  | array items => !items.isEmpty
  | object fields => !fields.isEmpty

@[simp] theorem truthy_text (s : String) : (text s).truthy = (s != "") := rfl

end Json

end ShaderBindings
