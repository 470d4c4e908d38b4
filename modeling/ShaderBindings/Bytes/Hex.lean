/-
  Bytes written as pairs of hexadecimal digits. `Bytes.ofHex` reads such a text, with ASCII
  white space allowed in front of each pair, and names the position of the first character that
  is out of place; `Bytes.toHex` writes one. That the first reads back the second is
  `ofHex_toHex` in `Proofs.Bytes`.
-/
import ShaderBindings.Bytes.Utf8
import ShaderBindings.Text.Blank

namespace ShaderBindings.Bytes

/-- The value of a hexadecimal digit of either case. -/
def hexValue? (c : Char) : Option Nat :=
  if '0' ≤ c ∧ c ≤ '9' then some (c.toNat - 48)
  else if 'a' ≤ c ∧ c ≤ 'f' then some (c.toNat - 87)
  else if 'A' ≤ c ∧ c ≤ 'F' then some (c.toNat - 55)
  else none

/-- The byte of two hexadecimal digits. -/
def ofNibbles (high low : Nat) : UInt8 := (16 * high + low).toUInt8

/-- Reads pairs of digits, the first character standing at the given position. The fault is the
position where a digit was expected. -/
def hexPairs (position : Nat) : List Char → Except Nat Bytes
  | [] => .ok []
  | c :: rest =>
    if Text.isAsciiBlank c then hexPairs (position + 1) rest
    else
      match hexValue? c, rest with
      | none, _ => .error position
      | some _, [] => .error (position + 1)
      | some high, d :: rest =>
        match hexValue? d with
        | none => .error (position + 1)
        | some low => (hexPairs (position + 2) rest).map (ofNibbles high low :: ·)

/-- The bytes that a hexadecimal text writes. A character outside ASCII is a fault before any
other. -/
def ofHex (s : String) : Except Nat Bytes :=
  match s.toList.findIdx? fun c => 0x80 ≤ c.toNat with
  | some position => .error position
  | none => hexPairs 0 s.toList

/-- Two hexadecimal digits in lower case. -/
def hexByte (b : UInt8) : String :=
  String.ofList [Nat.digitChar (b.toNat / 16), Nat.digitChar (b.toNat % 16)]

/-- The hexadecimal text of bytes, two digits each. -/
def toHex (bytes : Bytes) : String := String.join (bytes.map hexByte)

end ShaderBindings.Bytes
