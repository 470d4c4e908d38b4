/-
  Values as keys of a map. Texts, numbers, truth values and null may be keys, arrays and objects
  may not (`Json.isKey`). Two values are one key (`Json.sameKey`) if they are equal, where
  numbers are compared by what they are worth (`Json.ratio?`): 1, 1.0 and true are one key.
  `Json.putKey` keeps the key that came first.
-/
import ShaderBindings.Json.Basic

namespace ShaderBindings

/-- A finite value as a fraction. -/
def Binary64.ratio? : Binary64 → Option (Int × Nat)
  | finite negative m e =>
    let n : Nat := if 0 ≤ e then m * twoTo e.toNat else m
    some (if negative then -(n : Int) else n, if 0 ≤ e then 1 else twoTo (-e).toNat)
  | _ => none

namespace Json

/-- Whether a value may be a key. -/
def isKey : Json → Bool
  | array _ => false
  | object _ => false
  | _ => true

/-- What a finite number is worth, as a fraction. True is worth one and false nothing. -/
def ratio? : Json → Option (Int × Nat)
  | bool b => some (if b then 1 else 0, 1)
  | int n => some (n, 1)
  | float x => x.ratio?
  | _ => none

/-- Whether two values are one key. -/
def sameKey (v w : Json) : Bool :=
  match v.ratio?, w.ratio? with
  | some (a, b), some (c, d) => a * d == c * b
  | none, none =>
    match v, w with
    | null, null => true
    | float x, float y => x == y
    | text s, text t => s == t
    | _, _ => false
  | _, _ => false

/-- Gives a key a value: in place of the old one, or at the end. -/
def putKey (found : List (Json × Json)) (key v : Json) : List (Json × Json) :=
  match found with
  | [] => [(key, v)]
  | e :: rest => if e.1.sameKey key then (e.1, v) :: rest else e :: putKey rest key v

example : putKey [(int 1, text "a")] (bool true) (text "b") = [(int 1, text "b")] := by rfl

end Json

end ShaderBindings
