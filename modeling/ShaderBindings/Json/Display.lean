/-
  The text of a JSON value inside generated code and messages (`Json.display`). A text on its
  own stands as it is; inside an array or an object it is quoted (`Json.nested`).
-/
import ShaderBindings.Json.Basic
import ShaderBindings.Number.Shortest
import ShaderBindings.Text.Quoted

namespace ShaderBindings.Json

mutual

/-- A value with texts in quotes. -/
def nested : Json → String
  | null => "None"
  | bool b => if b then "True" else "False"
  | int n => Text.numeral n
  | float x => x.text
  | text s => Text.quoted s
  | array items => "[" ++ ", ".intercalate (nestedItems items) ++ "]"
  | object fields => "\x7b" ++ ", ".intercalate (nestedFields fields) ++ "\x7d"

def nestedItems : List Json → List String
  | [] => []
  | v :: rest => nested v :: nestedItems rest

def nestedFields : List (String × Json) → List String
  | [] => []
  | (name, v) :: rest => (Text.quoted name ++ ": " ++ nested v) :: nestedFields rest

end

/-- A value on its own. -/
def display : Json → String
  | text s => s
  | v => nested v

@[simp] theorem display_text (s : String) : display (.text s) = s := rfl

end ShaderBindings.Json
