/-
  Upper and lower case of any text, one character at a time (`Text.upper`, `Text.lower`) except
  for the Greek sigma, whose lower case depends on whether the word ends there (`Text.endsWord`,
  `Text.lowerAll`). The tables are in `Text.CaseTable`.
-/
import ShaderBindings.Text.CaseTable

namespace ShaderBindings.Text

/-- The counterpart of a code point in a table of runs. -/
def shifted? (runs : List CaseRun) (n : Nat) : Option Char :=
  (runs.find? fun r => r.first ≤ n && n ≤ r.last && (n - r.first) % r.step == 0).map
    fun r => Char.ofNat ((n : Int) + r.shift).toNat

/-- The counterpart of a character, several code points long or one, or the character itself. -/
def recased (words : List (Nat × List Nat)) (runs : List CaseRun) (c : Char) : List Char :=
  match words.lookup c.toNat with
  | some codes => codes.map Char.ofNat
  | none => [(shifted? runs c.toNat).getD c]

/-- The upper case of a character. -/
def upper (c : Char) : List Char :=
  if c.toNat < 0x80 then [c.toUpper] else recased upperWords upperRuns c

/-- The lower case of a character that is not the Greek capital sigma. -/
def lower (c : Char) : List Char :=
  if c.toNat < 0x80 then [c.toLower] else recased lowerWords lowerRuns c

def isCased (c : Char) : Bool := inRanges casedRanges c.toNat

def isCaseIgnorable (c : Char) : Bool := inRanges caseIgnorableRanges c.toNat

/-- Whether a word ends between the two texts: a letter stands before and none behind, marks
left aside. The text before is given in reverse. -/
def endsWord (before after : List Char) : Bool :=
  (before.dropWhile isCaseIgnorable).head?.any isCased
    && !(after.dropWhile isCaseIgnorable).head?.any isCased

/-- The lower case of a text, given what stands before it in reverse. -/
def lowerFrom (before : List Char) : List Char → List Char
  | [] => []
  | c :: rest =>
    (if c = 'Σ' then [if endsWord before rest then 'ς' else 'σ'] else lower c)
      ++ lowerFrom (c :: before) rest

/-- The lower case of a text. -/
def lowerAll (cs : List Char) : List Char := lowerFrom [] cs

end ShaderBindings.Text
