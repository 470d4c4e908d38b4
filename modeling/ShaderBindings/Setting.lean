/-
  Settings that may be given without a value (`Setting`). A blank setting is neither left out
  nor the empty text: it has no type of its own and is of no use where a value is needed.
-/

namespace ShaderBindings

/-- What a setting was given. -/
inductive Setting (α : Type)
  | blank
  | value (a : α)
deriving DecidableEq, Repr

namespace Setting

def value? : Setting α → Option α
  | blank => none
  | value a => some a

/-- The value, or another one in place of a blank. -/
def valueOr (default : α) : Setting α → α
  | blank => default
  | value a => a

/-- The text of a setting; a blank one is shown as a pair of brackets. -/
def text (write : α → String) : Setting α → String
  | blank => "[]"
  | value a => write a

end Setting

end ShaderBindings
