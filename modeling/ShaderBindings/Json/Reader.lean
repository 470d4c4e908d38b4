/-
  Reading JSON from text (`Json.read`). The grammar is that of the standard, with the names NaN,
  Infinity and -Infinity for numbers without digits. Of fields with one name the last wins.
  Arrays and objects may be nested up to a given depth, and integers may have up to a given
  number of digits (`Json.Limits`). Two escapes that write a pair of surrogates are one
  character; a surrogate without its partner is no character and is refused
  (`ReadFault.unpaired`), whatever stands behind it.
-/
import ShaderBindings.Json.Basic
import ShaderBindings.Text.Digit

namespace ShaderBindings.Json

/-- What a reader was inside of when the nesting went too deep. -/
inductive Bracket
  | array
  | object
deriving DecidableEq, Repr

/-- Why a text is not read. -/
inductive ReadFault
  | malformed
  | tooManyDigits (digits : Nat)
  | tooDeep (within : Bracket)
  /-- A surrogate without its partner, which no text here can hold. -/
  | unpaired
deriving DecidableEq, Repr

/-- What a reader puts up with. Without a number of digits there is no limit to them. -/
structure Limits where
  depth : Nat
  digits : Option Nat

/-- A result of reading and the text behind what was read. -/
abbrev Read (α : Type) := Except ReadFault (α × List Char)

namespace Reader

def isSpace (c : Char) : Bool := c == ' ' || c == '\t' || c == '\n' || c == '\r'

def skipSpace (cs : List Char) : List Char := cs.dropWhile isSpace

/-! ## Numbers -/

/-- The ASCII digits in front of a text and what follows them. -/
def digitsOf (cs : List Char) : List Nat × List Char :=
  (cs.takeWhile fun c => (Text.asciiDigit? c).isSome).filterMap Text.asciiDigit?
    |> fun ds => (ds, cs.dropWhile fun c => (Text.asciiDigit? c).isSome)

/-- The digits behind a decimal point; without a digit there, the point is not part of the
number. -/
def fraction (cs : List Char) : Option (List Nat × List Char) :=
  match cs with
  | '.' :: rest =>
    match digitsOf rest with
    | ([], _) => none
    | found => some found
  | _ => none

/-- The exponent behind a number; without a digit, there is none. -/
def exponent (cs : List Char) : Option (Int × List Char) :=
  match cs with
  | e :: rest =>
    if e = 'e' ∨ e = 'E' then
      let (negative, rest) := match rest with
        | '-' :: more => (true, more)
        | '+' :: more => (false, more)
        | _ => (false, rest)
      match digitsOf rest with
      | ([], _) => none
      | (ds, more) =>
        let n : Int := (Text.ofDigits 0 ds : Nat)
        some (if negative then -n else n, more)
    else none
  | [] => none

/-- The digits in front of the decimal point: a zero alone, or digits that start with another. -/
def integerPart (cs : List Char) : Option (List Nat × List Char) :=
  match digitsOf cs with
  | ([], _) => none
  | (0 :: _, _) => some ([0], cs.tail)
  | found => some found

/-- A number, its minus sign read already. -/
def number (limits : Limits) (negative : Bool) (cs : List Char) : Read Json :=
  match integerPart cs with
  | none => .error .malformed
  | some (whole, rest) =>
    let (places, rest) := match fraction rest with
      | some (ds, more) => (some ds, more)
      | none => (none, rest)
    let (power, rest) := match exponent rest with
      | some (e, more) => (some e, more)
      | none => (none, rest)
    if places.isNone && power.isNone then
      if limits.digits.any (· < whole.length) then .error (.tooManyDigits whole.length)
      else
        let n : Int := (Text.ofDigits 0 whole : Nat)
        .ok (.int (if negative then -n else n), rest)
    else
      let after := places.getD []
      let scale := power.getD 0 - after.length
      .ok (.float (.ofDecimal negative (Text.ofDigits 0 (whole ++ after)) scale), rest)

/-! ## Strings -/

/-- The value of four hexadecimal digits. -/
def codeUnit? (a b c d : Char) : Option Nat := do
  let digit (x : Char) : Option Nat :=
    if '0' ≤ x ∧ x ≤ '9' then some (x.toNat - 48)
    else if 'a' ≤ x ∧ x ≤ 'f' then some (x.toNat - 87)
    else if 'A' ≤ x ∧ x ≤ 'F' then some (x.toNat - 55)
    else none
  return 4096 * (← digit a) + 256 * (← digit b) + 16 * (← digit c) + (← digit d)

/-- The character that a code unit starts and the text behind it. A pair of surrogates is one
character. A surrogate without its partner is refused: nothing else may be put in its place. -/
def ofCodeUnit (unit : Nat) (rest : List Char) : Read Char :=
  if 0xd800 ≤ unit && unit ≤ 0xdbff then
    match rest with
    | '\\' :: 'u' :: a :: b :: c :: d :: more =>
      match codeUnit? a b c d with
      | none => .error .malformed
      | some low =>
        if 0xdc00 ≤ low && low ≤ 0xdfff then
          .ok (Char.ofNat (0x10000 + 0x400 * (unit - 0xd800) + (low - 0xdc00)), more)
        else .error .unpaired
    | _ => .error .unpaired
  else if 0xdc00 ≤ unit && unit ≤ 0xdfff then .error .unpaired
  else .ok (Char.ofNat unit, rest)

/-- The character that an escape stands for, its backslash read already. -/
def escaped (cs : List Char) : Read Char :=
  match cs with
  | 'u' :: a :: b :: c :: d :: rest =>
    match codeUnit? a b c d with
    | none => .error .malformed
    | some unit => ofCodeUnit unit rest
  | c :: rest =>
    match c with
    | '\x22' => .ok ('\x22', rest)
    | '\\' => .ok ('\\', rest)
    | '/' => .ok ('/', rest)
    | 'b' => .ok ('\x08', rest)
    | 'f' => .ok ('\x0c', rest)
    | 'n' => .ok ('\n', rest)
    | 'r' => .ok ('\r', rest)
    | 't' => .ok ('\t', rest)
    | _ => .error .malformed
  | [] => .error .malformed

/-- The characters up to the closing quote, collected in reverse. The first argument bounds the
number of characters. -/
def stringBody : Nat → List Char → List Char → Read String
  | 0, _, _ => .error .malformed
  | _, _, [] => .error .malformed
  | fuel + 1, found, c :: rest =>
    if c = '\x22' then .ok (String.ofList found.reverse, rest)
    else if c = '\\' then
      match escaped rest with
      | .error fault => .error fault
      | .ok (d, more) => stringBody fuel (d :: found) more
    else if c.toNat < 0x20 then .error .malformed
    else stringBody fuel (c :: found) rest

/-- A string, its opening quote read already. -/
def string (cs : List Char) : Read String := stringBody (cs.length + 1) [] cs

/-! ## Values -/

/-- The text behind a word in front. -/
def afterWord? (word : String) (cs : List Char) : Option (List Char) :=
  if word.toList.isPrefixOf cs then some (cs.drop word.length) else none

/-- The words that are values. -/
def words : List (String × Json) :=
  [("null", .null), ("true", .bool true), ("false", .bool false), ("NaN", .float .nan),
   ("Infinity", .float (.infinite false)), ("-Infinity", .float (.infinite true))]

/-- The word in front of a text, as a value. -/
def word? (cs : List Char) : Option (Json × List Char) :=
  words.findSome? fun w => (afterWord? w.1 cs).map fun rest => (w.2, rest)

mutual

/-- A value at the front of the text. The second argument is how many brackets may still be
opened, the third bounds the number of steps. -/
def value (limits : Limits) : Nat → Nat → List Char → Read Json
  | _, 0, _ => .error .malformed
  | _, _, [] => .error .malformed
  | depth, fuel + 1, c :: rest =>
    if c = '\x22' then (string rest).map fun r => (.text r.1, r.2)
    else if c = '[' then
      match depth with
      | 0 => .error (.tooDeep .array)
      | depth + 1 =>
        match skipSpace rest with
        | ']' :: more => .ok (.array [], more)
        | start => items limits depth fuel [] start
    else if c = '\x7b' then
      match depth with
      | 0 => .error (.tooDeep .object)
      | depth + 1 =>
        match skipSpace rest with
        | '\x7d' :: more => .ok (.object [], more)
        | start => fields limits depth fuel [] start
    else
      match word? (c :: rest) with
      | some found => .ok found
      | none => if c = '-' then number limits true rest else number limits false (c :: rest)

/-- The items of an array up to its bracket, collected in reverse. -/
def items (limits : Limits) : Nat → Nat → List Json → List Char → Read Json
  | _, 0, _, _ => .error .malformed
  | depth, fuel + 1, found, cs =>
    match value limits depth fuel cs with
    | .error fault => .error fault
    | .ok (v, rest) =>
      match skipSpace rest with
      | ',' :: more => items limits depth fuel (v :: found) (skipSpace more)
      | ']' :: more => .ok (.array (v :: found).reverse, more)
      | _ => .error .malformed

/-- The fields of an object up to its bracket. -/
def fields (limits : Limits) : Nat → Nat → Named Json → List Char → Read Json
  | _, 0, _, _ => .error .malformed
  | depth, fuel + 1, found, cs =>
    match cs with
    | '\x22' :: start =>
      match string start with
      | .error fault => .error fault
      | .ok (name, rest) =>
        match skipSpace rest with
        | ':' :: more =>
          match value limits depth fuel (skipSpace more) with
          | .error fault => .error fault
          | .ok (v, rest) =>
            match skipSpace rest with
            | ',' :: more => fields limits depth fuel (found.put name v) (skipSpace more)
            | '\x7d' :: more => .ok (.object (found.put name v), more)
            | _ => .error .malformed
        | _ => .error .malformed
    | _ => .error .malformed

end

end Reader

/-- Reads a value that fills the text, white space around it aside. -/
def read (limits : Limits) (s : String) : Except ReadFault Json :=
  let cs := Reader.skipSpace s.toList
  match Reader.value limits limits.depth (2 * cs.length + 2) cs with
  | .error fault => .error fault
  | .ok (v, rest) => if Reader.skipSpace rest = [] then .ok v else .error .malformed

end ShaderBindings.Json
