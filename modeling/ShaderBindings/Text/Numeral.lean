/-
  Reading an integer written as text (`Text.readInt`): white space around, a sign, digits of any
  script, and single underscores between digits. Numerals of more than `Text.longestNumeral`
  digits are refused, with their length.
-/
import ShaderBindings.Text.Blank
import ShaderBindings.Text.Decimal
import ShaderBindings.Text.Digit

namespace ShaderBindings.Text

/-- Why a text is not taken for an integer. -/
inductive NumeralFault
  | malformed
  | tooLong (digits : Nat)
deriving DecidableEq, Repr

/-- A text with a character outside ASCII, in ASCII: white space becomes blanks, digits ASCII
digits, and the text is cut at the first character that is neither, a question mark in its
place. -/
def foldScripts : List Char → List Char
  | [] => []
  | c :: rest =>
    if c.toNat < 0x7f then c :: foldScripts rest
    else if isBlank c then ' ' :: foldScripts rest
    else
      match digitValue? c with
      | some d => Nat.digitChar d :: foldScripts rest
      | none => ['?']

/-- The digits up to the first character that is neither a digit nor an underscore, and the
text from there. There is no result when an underscore has no digit on its left or right. -/
def digitRun (afterDigit : Bool) : List Char → Option (List Nat × List Char)
  | [] => if afterDigit then some ([], []) else none
  | c :: rest =>
    match asciiDigit? c with
    | some d => (digitRun true rest).map fun r => (d :: r.1, r.2)
    | none =>
      if c = '_' then if afterDigit then digitRun false rest else none
      else if afterDigit then some ([], c :: rest) else none

/-- The sign in front of a numeral and the text behind it. -/
def sign : List Char → Bool × List Char
  | '-' :: rest => (true, rest)
  | '+' :: rest => (false, rest)
  | cs => (false, cs)

/-- Reads an integer that fills the text. -/
def readInt (s : String) : Except NumeralFault Int :=
  let cs := s.toList
  let ascii := if cs.all (·.toNat < 0x80) then cs else foldScripts cs
  let (negative, unsigned) := sign (ascii.dropWhile isAsciiBlank)
  match digitRun false unsigned with
  | none => .error .malformed
  | some (ds, rest) =>
    if ds.length > longestNumeral then .error (.tooLong ds.length)
    else if rest.all isAsciiBlank then
      .ok (if negative then -(ofDigits 0 ds : Nat) else (ofDigits 0 ds : Nat))
    else .error .malformed

end ShaderBindings.Text
