/-
  Decimal numerals of integers, plain (`Text.numeral`) and with thousands separators
  (`Text.grouped`), and how long they may be (`Text.longestNumeral`, `Text.hasNumeral`).
-/

namespace ShaderBindings.Text

/-- The decimal digits of a number, most significant first; zero has one digit. -/
def digits (n : Nat) : String := String.ofList (Nat.toDigits 10 n)

/-- The decimal numeral of an integer, with a minus sign in front of a negative one. -/
def numeral (n : Int) : String :=
  if n < 0 then "-" ++ digits n.natAbs else digits n.natAbs

/-- The most digits that a numeral may have, in either direction. -/
def longestNumeral : Nat := 4300

/-- Whether an integer has a numeral that is not too long. -/
def hasNumeral (n : Int) : Bool := (Nat.toDigits 10 n.natAbs).length ≤ longestNumeral

/-- The message about a numeral that is too long, with its length where that has been counted. -/
def tooManyDigits (counted : Option Nat) : String :=
  "Exceeds the limit (" ++ digits longestNumeral ++ " digits) for integer string conversion"
    ++ (match counted with
      | some n => ": value has " ++ digits n ++ " digits"
      | none => "")
    ++ "; use sys.set_int_max_str_digits() to increase the limit"

/-- Commas between groups of three, counted from the right. -/
def separated : List Char → List Char
  | [] => []
  | c :: rest =>
    if rest.length % 3 = 0 ∧ rest ≠ [] then c :: ',' :: separated rest else c :: separated rest

/-- The decimal numeral of an integer with thousands separators. -/
def grouped (n : Int) : String :=
  let body := String.ofList (separated (Nat.toDigits 10 n.natAbs))
  if n < 0 then "-" ++ body else body

@[simp] theorem numeral_natCast (n : Nat) : numeral (n : Int) = digits n := by
  have h : ¬ (n : Int) < 0 := Int.not_lt.mpr (Int.natCast_nonneg n)
  simp [numeral, h]

theorem toList_digits (n : Nat) : (digits n).toList = Nat.toDigits 10 n := by
  simp [digits]

/-- A numeral has digits, and a minus sign if it is negative. -/
theorem mem_numeral {c : Char} {n : Int} (h : c ∈ (numeral n).toList) :
    c = '-' ∨ c.isDigit = true := by
  have hdigits (h : c ∈ (digits n.natAbs).toList) : c.isDigit = true := by
    rw [toList_digits] at h
    exact Nat.isDigit_of_mem_toDigits (by decide) (by decide) h
  unfold numeral at h
  split at h
  · rw [String.toList_append, List.mem_append] at h
    exact h.imp List.mem_singleton.mp hdigits
  · exact .inr (hdigits h)

end ShaderBindings.Text
