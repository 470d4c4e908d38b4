/-
  What can be wrong with a reflection dump (`DumpFault`), and how messages name it
  (`DumpFault.describe`). Most faults are reported as malformed input (`DumpFault.isMalformed`):
  nesting that is too deep and an infinite number for an integer are not, and what becomes of a
  text with an unpaired surrogate is not told.
-/
import ShaderBindings.Json.Reader
import ShaderBindings.Text.Numeral
import ShaderBindings.Text.Quoted
import ShaderBindings.Text.Decimal

namespace ShaderBindings

inductive DumpFault
  /-- The text is not JSON that can be read. -/
  | unread (f : Json.ReadFault)
  /-- A value of a shape that cannot be used where it stands. -/
  | wrongShape
  /-- Fields are asked of a value that is not an object. -/
  | noFields
  | missingField (name : String)
  | badNumeral (text : String) (f : Text.NumeralFault)
  /-- A number without a value where an integer is needed. -/
  | undefinedNumber
  | infiniteNumber
  | badHex (position : Nat)
  /-- A host type mapping given as a list with an element that is not a pair. -/
  | badPair (index length : Nat)
  | unknownSlang (name : String)
deriving DecidableEq, Repr

namespace DumpFault

/-- The message of a fault, where it has one. -/
def message? : DumpFault → Option String
  | unread .malformed => none
  | unread (.tooManyDigits digits) => some (Text.tooManyDigits (some digits))
  | unread (.tooDeep .array) =>
    some "maximum recursion depth exceeded while decoding a JSON array from a unicode string"
  | unread (.tooDeep .object) =>
    some "maximum recursion depth exceeded while decoding a JSON object from a unicode string"
  | unread .unpaired => none
  | wrongShape => none
  | noFields => none
  | missingField name => some (Text.quoted name)
  | badNumeral text .malformed =>
    some ("invalid literal for int() with base 10: "
      ++ String.ofList ((Text.quoted text).toList.take 200))
  | badNumeral _ (.tooLong digits) => some (Text.tooManyDigits (some digits))
  | undefinedNumber => some "cannot convert float NaN to integer"
  | infiniteNumber => some "cannot convert float infinity to integer"
  | badHex position =>
    some ("non-hexadecimal number found in fromhex() arg at position " ++ Text.digits position)
  | badPair index length =>
    some ("dictionary update sequence element #" ++ Text.digits index ++ " has length "
      ++ Text.digits length ++ "; 2 is required")
  | unknownSlang name => some ("unknown shading language in dump: " ++ Text.quoted name)

/-- The sort of a fault, in messages. -/
def sort : DumpFault → String
  | unread .malformed => "JSONDecodeError"
  | unread (.tooDeep _) => "RecursionError"
  | wrongShape => "TypeError"
  | noFields => "AttributeError"
  | missingField _ => "KeyError"
  | infiniteNumber => "OverflowError"
  | _ => "ValueError"

/-- A fault inside a message. A missing field is named as it is, any other message quoted. -/
def describe (f : DumpFault) : String :=
  f.sort ++ "("
    ++ (match f, f.message? with
      | missingField name, _ => Text.quoted name
      | _, some message => Text.quoted message
      | _, none => "...")
    ++ ")"

/-- Whether the fault counts as malformed input. Of the others an unpaired surrogate leaves open
what the program does, and the rest end it. -/
def isMalformed : DumpFault → Bool
  | unread (.tooDeep _) => false
  | unread .unpaired => false
  | infiniteNumber => false
  | _ => true

end DumpFault

end ShaderBindings
