/-
  Identifiers in generated code: which names are identifiers (`isIdentifier`), which ones a
  module may have (`isModuleName`, which lets a line feed at the end pass), and the spelling of
  record names (`adaCase`).
-/
import ShaderBindings.Text.Case

namespace ShaderBindings

/-- A letter or an underscore, of ASCII. -/
def isIdentifierStart (c : Char) : Bool :=
  ('a' ≤ c && c ≤ 'z') || ('A' ≤ c && c ≤ 'Z') || c == '_'

def isIdentifierPart (c : Char) : Bool := isIdentifierStart c || ('0' ≤ c && c ≤ '9')

/-- A letter or underscore, then letters, digits and underscores. -/
def isIdentifier : List Char → Bool
  | [] => false
  | c :: rest => isIdentifierStart c && rest.all isIdentifierPart

/-- The names a module may have: identifiers, with or without a line feed at the end. -/
def isModuleName (s : String) : Bool :=
  let cs := s.toList
  isIdentifier cs || (cs.getLast? == some '\n' && isIdentifier cs.dropLast)

/-- A word with its first letter in upper case and the others in lower case. -/
def capitalized : List Char → List Char
  | [] => []
  | c :: rest => Text.upper c ++ Text.lowerAll rest

/-- The record spelling of a name: each word between underscores capitalized. -/
def adaCase (s : String) : String :=
  String.ofList (['_'].intercalate ((s.toList.splitOn '_').map capitalized))

end ShaderBindings
