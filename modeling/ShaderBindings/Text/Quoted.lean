/-
  Quoted text for messages (`Text.quoted`): in single quotes, or in double quotes when only
  those avoid an escape; backslash escapes for the quote, the backslash and what cannot be
  printed (`Text.quotedChar`).
-/
import ShaderBindings.Text.PrintableTable

namespace ShaderBindings.Text

/-- Whether a character is shown as itself. -/
def isPrintable (c : Char) : Bool := 0x20 ≤ c.toNat && !inRanges unprintableRanges c.toNat

/-- Hexadecimal digits in lower case, at least `width` of them. -/
def hexDigits (width n : Nat) : List Char :=
  let ds := Nat.toDigits 16 n
  List.replicate (width - ds.length) '0' ++ ds

/-- A character between the given quotes. -/
def quotedChar (quote c : Char) : List Char :=
  if c = quote ∨ c = '\\' then ['\\', c]
  else if c = '\t' then ['\\', 't']
  else if c = '\n' then ['\\', 'n']
  else if c = '\r' then ['\\', 'r']
  else if isPrintable c then [c]
  else if c.toNat < 0x100 then '\\' :: 'x' :: hexDigits 2 c.toNat
  else if c.toNat < 0x10000 then '\\' :: 'u' :: hexDigits 4 c.toNat
  else '\\' :: 'U' :: hexDigits 8 c.toNat

/-- Double quotes exactly for a text with a single quote and no double one. -/
def quoteFor (cs : List Char) : Char :=
  if '\x27' ∈ cs ∧ '\x22' ∉ cs then '\x22' else '\x27'

/-- The text in quotes. -/
def quoted (s : String) : String :=
  let quote := quoteFor s.toList
  String.ofList (quote :: s.toList.flatMap (quotedChar quote) ++ [quote])

end ShaderBindings.Text
