/-
  The decimal text of a binary floating point number (`Binary64.text`): the fewest digits that
  read back as the same number, of those the nearest to it, and of two equally near ones the
  even one (`Binary64.shortestFrom`). From 1e-4 below 1e16 the text is positional, beyond that
  it has an exponent of at least two digits. It is only needed to show values; nothing is proved
  about it.
-/
import ShaderBindings.Number.Binary64
import ShaderBindings.Text.Decimal

namespace ShaderBindings.Binary64

/-- The quotient `num / den` over `10 ^ k`, as a fraction. -/
def overTen (num den : Nat) (k : Int) : Nat × Nat :=
  if 0 ≤ k then (num, den * tenTo k.toNat) else (num * tenTo (-k).toNat, den)

/-- How far a fraction lies from a natural number, times the denominator. -/
def distance (num den n : Nat) : Nat := (num - n * den) + (n * den - num)

/-- Whether the value lies nearer to `low + 1` than to `low`; in the middle it goes to the even
one. -/
def roundsUp (num den low : Nat) : Bool :=
  let below := distance num den low
  let above := distance num den (low + 1)
  above < below || (above = below && low % 2 = 1)

/-- The grid point `n · 10 ^ k` to which the value is rounded if it reads back, or else the one on
its other side. -/
def gridPoint? (m : Nat) (e : Int) (k : Int) : Option Nat :=
  let (num, den) := if 0 ≤ e then (m * twoTo e.toNat, 1) else (m, twoTo (-e).toNat)
  let (a, b) := overTen num den k
  let low := a / b
  let candidates := if roundsUp a b low then [low + 1, low] else [low, low + 1]
  candidates.find? fun n => ofDecimal false n k == .finite false m e

/-- The digits and the exponent of the shortest text, trying the given numbers of digits. -/
def shortestFrom (m : Nat) (e : Int) (scale : Int) : List Nat → Nat × Int
  | [] => (0, 0)
  | n :: rest =>
    let k := scale - n
    match gridPoint? m e k with
    | some d => (d, k)
    | none => shortestFrom m e scale rest

/-- The number of digits in front of the decimal point of a positive value, negative or zero for
one below a tenth. -/
def decimalScale (m : Nat) (e : Int) : Int :=
  let (num, den) := if 0 ≤ e then (m * twoTo e.toNat, 1) else (m, twoTo (-e).toNat)
  let guess := ((Nat.toDigits 10 num).length : Int) - (Nat.toDigits 10 den).length
  let (a, b) := overTen num den guess
  if a < b then guess else guess + 1

/-- Digits without the zeros at their end, and how many of those there were. -/
def stripZeros (ds : List Char) : List Char × Nat :=
  let kept := (ds.reverse.dropWhile (· == '0')).reverse
  (kept, ds.length - kept.length)

/-- The text of `0.d₁d₂… · 10 ^ point`. -/
def layoutDigits (ds : List Char) (point : Int) : List Char :=
  if -4 < point ∧ point ≤ 16 then
    if point ≤ 0 then '0' :: '.' :: List.replicate (-point).toNat '0' ++ ds
    else if ds.length ≤ point.toNat then
      ds ++ List.replicate (point.toNat - ds.length) '0' ++ ['.', '0']
    else ds.take point.toNat ++ '.' :: ds.drop point.toNat
  else
    let mantissa := match ds with
      | [d] => [d]
      | d :: rest => d :: '.' :: rest
      | [] => []
    let exponent := point - 1
    let shown := Nat.toDigits 10 exponent.natAbs
    mantissa ++ 'e' :: (if exponent < 0 then '-' else '+')
      :: List.replicate (2 - shown.length) '0' ++ shown

/-- The text of a number. -/
def text : Binary64 → String
  | nan => "nan"
  | infinite negative => if negative then "-inf" else "inf"
  | finite negative m e =>
    let body :=
      if m = 0 then ['0', '.', '0']
      else
        let (d, k) := shortestFrom m e (decimalScale m e) ((List.range 17).map (· + 1))
        let (ds, dropped) := stripZeros (Nat.toDigits 10 d)
        layoutDigits ds (ds.length + dropped + k)
    String.ofList (if negative then '-' :: body else body)

end ShaderBindings.Binary64
