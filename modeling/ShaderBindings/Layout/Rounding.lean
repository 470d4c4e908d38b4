/-
  Rounding integers up to a multiple of a power of two (`Layout.roundUp`), by clearing low bits
  in two's complement (`Layout.clearBits`). That this is the next multiple is in
  `Proofs.Layout.Rounding`.
-/

namespace ShaderBindings.Layout

/-- The integer without the bits that are set in the mask. A negative integer has infinitely
many ones on the left. -/
def clearBits : Int → Int → Int
  | .ofNat m, .ofNat k => .ofNat (m - (m &&& k))
  | .ofNat m, .negSucc k => .ofNat (m &&& k)
  | .negSucc m, .ofNat k => .negSucc (m ||| k)
  | .negSucc m, .negSucc k => .ofNat (k - (k &&& m))

/-- The next multiple of `step` that is not below the value, for a power of two. -/
def roundUp (value step : Int) : Int := clearBits (value + (step - 1)) (step - 1)

end ShaderBindings.Layout
