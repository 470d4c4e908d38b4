/-
  Rounding up to a power of two is the ceiling on all integers: the result is the only multiple
  of the step that is neither below the value nor a whole step above it (`roundUp_eq_iff`). What
  is known of a ceiling follows from that alone (`roundUp_mono`, `roundUp_add_of_dvd`); the
  masks matter only up to `clearBits_two_pow`. Steps that are no powers of two are not rounded
  to.
-/
import Mathlib
import ShaderBindings.Layout.Rounding

namespace ShaderBindings.Layout

/-! ## Masks -/

/-- What is taken away from a natural number are those of its own bits that are set in the mask. -/
theorem testBit_sub_and (m k i : Nat) :
    (m - (m &&& k)).testBit i = (m.testBit i && !k.testBit i) := by
  induction i generalizing m k with
  | zero =>
    have hle : m &&& k ≤ m := Nat.and_le_left
    have hlow : (m &&& k) % 2 = 1 ↔ m % 2 = 1 ∧ k % 2 = 1 := Nat.and_mod_two_eq_one
    simp only [Nat.testBit_zero, ← decide_not, ← Bool.decide_and, decide_eq_decide]
    omega
  | succ i ih =>
    -- nothing is borrowed at the lowest bit, so that the other bits are taken away on their own
    have hhalf : (m - (m &&& k)) / 2 = m / 2 - (m / 2 &&& k / 2) := by
      have hle : m &&& k ≤ m := Nat.and_le_left
      have hlow : (m &&& k) % 2 = 1 ↔ m % 2 = 1 ∧ k % 2 = 1 := Nat.and_mod_two_eq_one
      rw [← Nat.and_div_two]
      omega
    rw [Nat.testBit_succ, hhalf, ih, Nat.testBit_succ, Nat.testBit_succ]

/-- Bit by bit, an integer keeps what is not set in the mask. -/
theorem testBit_clearBits (v mask : Int) (i : Nat) :
    (clearBits v mask).testBit i = (v.testBit i && !mask.testBit i) := by
  cases v with
  | ofNat m =>
    cases mask with
    | ofNat k => exact testBit_sub_and m k i
    | negSucc k => simp [clearBits, Int.testBit]
  | negSucc m =>
    cases mask with
    | ofNat k => simp [clearBits, Int.testBit]
    | negSucc k => simp [clearBits, Int.testBit, testBit_sub_and, Bool.and_comm]

/-- Setting the low bits of a natural number fills its last block. -/
theorem or_two_pow_sub_one (m k : Nat) :
    m ||| (2 ^ k - 1) = 2 ^ k * (m / 2 ^ k) + (2 ^ k - 1) := by
  have hpos : 0 < 2 ^ k := Nat.two_pow_pos k
  have hlow : m % 2 ^ k ||| (2 ^ k - 1) = 2 ^ k - 1 := by
    have hlt : m % 2 ^ k ||| (2 ^ k - 1) < 2 ^ k :=
      Nat.or_lt_two_pow (Nat.mod_lt m hpos) (by omega)
    have hle : 2 ^ k - 1 ≤ m % 2 ^ k ||| (2 ^ k - 1) := Nat.right_le_or
    omega
  calc m ||| (2 ^ k - 1)
      = (2 ^ k * (m / 2 ^ k) + m % 2 ^ k) ||| (2 ^ k - 1) := by rw [Nat.div_add_mod]
    _ = 2 ^ k * (m / 2 ^ k) ||| (m % 2 ^ k ||| (2 ^ k - 1)) := by
        rw [Nat.two_pow_add_eq_or_of_lt (Nat.mod_lt m hpos), Nat.or_assoc]
    _ = 2 ^ k * (m / 2 ^ k) + (2 ^ k - 1) := by
        rw [hlow, ← Nat.two_pow_add_eq_or_of_lt (by omega)]

/-- Clearing the low bits takes the remainder away, on either side of zero. -/
theorem clearBits_two_pow (v : Int) (k : Nat) :
    clearBits v (2 ^ k - 1) = v - v % 2 ^ k := by
  have hpos : 0 < 2 ^ k := Nat.two_pow_pos k
  have hmask : ((2 : Int) ^ k - 1) = Int.ofNat (2 ^ k - 1) := by
    rw [Int.ofNat_eq_natCast, Int.natCast_sub hpos]
    norm_cast
  have hstep : ((2 : Int) ^ k) = ((2 ^ k : Nat) : Int) := by norm_cast
  rw [hmask, hstep]
  cases v with
  | ofNat m =>
    have hmod : m % 2 ^ k ≤ m := Nat.mod_le m (2 ^ k)
    simp only [clearBits, Nat.and_two_pow_sub_one_eq_mod, Int.ofNat_eq_natCast]
    omega
  | negSucc m =>
    -- the remainder of `-(m + 1)` is what `m` lacks to the end of its block
    have hdiv := Nat.div_add_mod m (2 ^ k)
    have hmod : m % 2 ^ k < 2 ^ k := Nat.mod_lt m hpos
    simp only [clearBits, or_two_pow_sub_one]
    rw [Int.negSucc_emod m (by omega), Int.negSucc_eq, Int.negSucc_eq]
    omega

theorem roundUp_two_pow (v : Int) (k : Nat) :
    roundUp v (2 ^ k) = v + (2 ^ k - 1) - (v + (2 ^ k - 1)) % 2 ^ k := by
  rw [roundUp, clearBits_two_pow]

/-! ## The ceiling -/

theorem dvd_roundUp (v : Int) (k : Nat) : (2 : Int) ^ k ∣ roundUp v (2 ^ k) := by
  rw [roundUp_two_pow]
  exact Int.dvd_self_sub_emod

theorem le_roundUp (v : Int) (k : Nat) : v ≤ roundUp v (2 ^ k) := by
  have hpos : (0 : Int) < 2 ^ k := Int.pow_pos (by decide)
  have := Int.emod_lt_of_pos (v + (2 ^ k - 1)) hpos
  rw [roundUp_two_pow]
  omega

theorem roundUp_lt (v : Int) (k : Nat) : roundUp v (2 ^ k) < v + 2 ^ k := by
  have hpos : (0 : Int) < 2 ^ k := Int.pow_pos (by decide)
  have := Int.emod_nonneg (v + (2 ^ k - 1)) (Int.ne_of_gt hpos)
  rw [roundUp_two_pow]
  omega

/-- Of the multiples of the step only the rounded value lies in reach. -/
theorem eq_roundUp {v m : Int} {k : Nat} (hm : (2 : Int) ^ k ∣ m) (hle : v ≤ m)
    (hlt : m < v + 2 ^ k) : m = roundUp v (2 ^ k) := by
  have hdvd : (2 : Int) ^ k ∣ m - roundUp v (2 ^ k) := Int.dvd_sub hm (dvd_roundUp v k)
  have h1 := le_roundUp v k
  have h2 := roundUp_lt v k
  have : m - roundUp v (2 ^ k) = 0 :=
    Int.eq_zero_of_dvd_of_natAbs_lt_natAbs hdvd (by omega)
  omega

theorem roundUp_eq_iff {v m : Int} {k : Nat} :
    roundUp v (2 ^ k) = m ↔ (2 : Int) ^ k ∣ m ∧ v ≤ m ∧ m < v + 2 ^ k := by
  constructor
  · rintro rfl
    exact ⟨dvd_roundUp v k, le_roundUp v k, roundUp_lt v k⟩
  · rintro ⟨hm, hle, hlt⟩
    exact (eq_roundUp hm hle hlt).symm

/-- No multiple of the step above the value is smaller. -/
theorem roundUp_le {v m : Int} {k : Nat} (hm : (2 : Int) ^ k ∣ m) (hle : v ≤ m) :
    roundUp v (2 ^ k) ≤ m := by
  have hlt := roundUp_lt v k
  by_contra hgt
  have hstep : (2 : Int) ^ k ≤ roundUp v (2 ^ k) - m :=
    Int.le_of_dvd (by omega) (Int.dvd_sub (dvd_roundUp v k) hm)
  omega

theorem roundUp_of_dvd {v : Int} {k : Nat} (h : (2 : Int) ^ k ∣ v) : roundUp v (2 ^ k) = v := by
  have hpos : (0 : Int) < 2 ^ k := Int.pow_pos (by decide)
  exact roundUp_eq_iff.mpr ⟨h, Int.le_refl v, by omega⟩

theorem roundUp_mono {v w : Int} (k : Nat) (h : v ≤ w) :
    roundUp v (2 ^ k) ≤ roundUp w (2 ^ k) :=
  roundUp_le (dvd_roundUp w k) (Int.le_trans h (le_roundUp w k))

theorem roundUp_add_of_dvd {d : Int} {k : Nat} (v : Int) (h : (2 : Int) ^ k ∣ d) :
    roundUp (v + d) (2 ^ k) = roundUp v (2 ^ k) + d := by
  have hle := le_roundUp v k
  have hlt := roundUp_lt v k
  exact roundUp_eq_iff.mpr ⟨Int.dvd_add (dvd_roundUp v k) h, by omega, by omega⟩

/-- A value between another one and its rounded value rounds to the same. -/
theorem roundUp_eq_of_between {v w : Int} {k : Nat} (hle : v ≤ w) (hw : w ≤ roundUp v (2 ^ k)) :
    roundUp w (2 ^ k) = roundUp v (2 ^ k) := by
  have h := roundUp_lt v k
  exact (eq_roundUp (dvd_roundUp v k) hw (by omega)).symm

/-! ## Sixteen bytes -/

theorem dvd_roundUp_sixteen (v : Int) : 16 ∣ roundUp v 16 := dvd_roundUp v 4

theorem le_roundUp_sixteen (v : Int) : v ≤ roundUp v 16 := le_roundUp v 4

theorem roundUp_sixteen_lt (v : Int) : roundUp v 16 < v + 16 := roundUp_lt v 4

theorem roundUp_sixteen_eq_of_between {v w : Int} (hle : v ≤ w) (hw : w ≤ roundUp v 16) :
    roundUp w 16 = roundUp v 16 :=
  roundUp_eq_of_between (k := 4) hle hw

/-! ## All integers -/

/-- To round up is to add the mask of the low bits and to clear them, in two's complement; and that
is the ceiling, for negative integers too: the only multiple of the step in reach. So rounding twice
changes nothing, order is kept, multiples of the step can be added before or after, and a size that
is rounded to sixteen is a whole number of sixteens. -/
theorem roundUp_isCeiling (v : Int) (k : Nat) :
    (∀ i, (roundUp v (2 ^ k)).testBit i =
      ((v + (2 ^ k - 1)).testBit i && !(2 ^ k - 1 : Int).testBit i)) ∧
    (∀ m, roundUp v (2 ^ k) = m ↔ (2 : Int) ^ k ∣ m ∧ v ≤ m ∧ m < v + 2 ^ k) ∧
    roundUp (roundUp v (2 ^ k)) (2 ^ k) = roundUp v (2 ^ k) ∧
    (∀ w, v ≤ w → roundUp v (2 ^ k) ≤ roundUp w (2 ^ k)) ∧
    (∀ d, (2 : Int) ^ k ∣ d → roundUp (v + d) (2 ^ k) = roundUp v (2 ^ k) + d) ∧
    roundUp v 16 / 16 * 16 = roundUp v 16 := by
  refine ⟨fun i => ?_, fun m => roundUp_eq_iff, roundUp_of_dvd (dvd_roundUp v k),
    fun w => roundUp_mono k, fun d => roundUp_add_of_dvd v, ?_⟩
  · rw [roundUp, testBit_clearBits]
  · exact Int.ediv_mul_cancel (dvd_roundUp_sixteen v)

/-- Below zero, rounding up goes towards zero. -/
theorem negative_roundUp :
    ((-37 : Int) ≤ -20 ∧ (2 : Int) ^ 4 ∣ 48) ∧ roundUp (-37) (2 ^ 4) = -32 ∧
      roundUp (-37) (2 ^ 4) ≤ roundUp (-20) (2 ^ 4) ∧ roundUp (-37 + 48) (2 ^ 4) = -32 + 48 := by
  obtain ⟨-, hceiling, -, hmono, hadd, -⟩ := roundUp_isCeiling (-37) 4
  have h : roundUp (-37) (2 ^ 4) = -32 := (hceiling (-32)).mpr ⟨by decide, by decide, by decide⟩
  have hle : (-37 : Int) ≤ -20 := by decide
  have hdvd : (2 : Int) ^ 4 ∣ 48 := by decide
  refine ⟨⟨hle, hdvd⟩, h, hmono (-20) hle, ?_⟩
  rw [hadd 48 hdvd, h]

end ShaderBindings.Layout
