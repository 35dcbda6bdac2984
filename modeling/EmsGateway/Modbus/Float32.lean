import EmsGateway.Modbus.Codec

/-!
The `f32` values in their order. The bits of a magnitude count the `f32` values below it, so the
rounding to nearest even is monotone as a map to these counts.
-/

namespace EmsGateway.Modbus

open EmsGateway.Library

/-! Magnitudes -/

def f32Exponent (x : ℚ) : ℤ := max (Int.log 2 |x|) (-126)

/-- The significand before it is rounded, in units of the last place. -/
def f32Significand (x : ℚ) : ℚ := |x| / 2 ^ (f32Exponent x - 23)

theorem f32Magnitude_eq {x : ℚ} (nonzero : x ≠ 0) : (f32Magnitude x : ℤ) =
    (f32Exponent x + 126) * 2 ^ 23 + roundHalfEven (f32Significand x) := by
  have low : 0 ≤ f32Exponent x + 126 := by
    have := le_max_right (Int.log 2 |x|) (-126)
    unfold f32Exponent
    omega
  have nonneg : 0 ≤ roundHalfEven (f32Significand x) := by
    have rounded := roundHalfEven_mono (x := ((0 : ℕ) : ℚ)) (y := f32Significand x) (by
      unfold f32Significand
      positivity)
    rwa [roundHalfEven_natCast] at rounded
  unfold f32Magnitude
  rw [if_neg nonzero]
  dsimp only
  rw [Int.toNat_of_nonneg]
  · rfl
  · exact Int.add_nonneg (mul_nonneg low (by norm_num)) nonneg

theorem f32Significand_lt (x : ℚ) : f32Significand x < 2 ^ 24 := by
  have bound : |x| < 2 ^ (f32Exponent x + 1) := by
    have top := Int.lt_zpow_succ_log_self (b := 2) (by norm_num) |x|
    refine lt_of_lt_of_le (by exact_mod_cast top) ?_
    apply zpow_le_zpow_right₀ (by norm_num)
    have := le_max_left (Int.log 2 |x|) (-126)
    unfold f32Exponent
    omega
  have units : (2 : ℚ) ^ 24 * 2 ^ (f32Exponent x - 23) = 2 ^ (f32Exponent x + 1) := by
    rw [← zpow_natCast, ← zpow_add₀ (by norm_num)]
    ring_nf
  unfold f32Significand
  rw [div_lt_iff₀ (by positivity), units]
  exact bound

theorem le_f32Significand {x : ℚ} (nonzero : x ≠ 0) (normal : -126 < f32Exponent x) :
    2 ^ 23 ≤ f32Significand x := by
  have exponent : f32Exponent x = Int.log 2 |x| := by
    unfold f32Exponent at normal ⊢
    omega
  have bound : 2 ^ f32Exponent x ≤ |x| := by
    rw [exponent]
    exact_mod_cast Int.zpow_log_le_self (b := 2) (by norm_num) (abs_pos.mpr nonzero)
  have units : (2 : ℚ) ^ 23 * 2 ^ (f32Exponent x - 23) = 2 ^ f32Exponent x := by
    rw [← zpow_natCast, ← zpow_add₀ (by norm_num)]
    ring_nf
  unfold f32Significand
  rw [le_div_iff₀ (by positivity), units]
  exact bound

theorem f32Magnitude_mono {x y : ℚ} (le : |x| ≤ |y|) : f32Magnitude x ≤ f32Magnitude y := by
  by_cases zero : x = 0
  · rw [zero]
    exact Nat.zero_le _
  · have nonzero : y ≠ 0 := abs_pos.mp (lt_of_lt_of_le (abs_pos.mpr zero) le)
    have exponents : f32Exponent x ≤ f32Exponent y :=
      max_le_max_right _ (Int.log_mono_right (abs_pos.mpr zero) le)
    have magnitudes : (f32Magnitude x : ℤ) ≤ f32Magnitude y := by
      rw [f32Magnitude_eq zero, f32Magnitude_eq nonzero]
      rcases exponents.lt_or_eq with less | same
      · -- a smaller exponent leaves room for the carry of a significand that rounds up
        have normal : -126 < f32Exponent y :=
          lt_of_le_of_lt (le_max_right (Int.log 2 |x|) (-126)) less
        have top := roundHalfEven_mono (y := ((2 ^ 24 : ℕ) : ℚ)) (by
          exact_mod_cast (f32Significand_lt x).le)
        have bottom := roundHalfEven_mono (x := ((2 ^ 23 : ℕ) : ℚ)) (by
          exact_mod_cast le_f32Significand nonzero normal)
        rw [roundHalfEven_natCast] at top bottom
        push_cast at top bottom
        omega
      · have significands : f32Significand x ≤ f32Significand y := by
          unfold f32Significand
          rw [same]
          gcongr
        have rounded := roundHalfEven_mono significands
        rw [same]
        omega
    exact_mod_cast magnitudes

/-! Signs -/

/-- The place of the nearest `f32` among all of them, with `-0` just below `0`. -/
def f32Place (x : ℚ) : ℤ := if x < 0 then -1 - f32Magnitude x else f32Magnitude x

theorem f32Place_mono {x y : ℚ} (le : x ≤ y) : f32Place x ≤ f32Place y := by
  unfold f32Place
  split
  · split
    · rename_i negative below
      have magnitudes : f32Magnitude y ≤ f32Magnitude x := by
        apply f32Magnitude_mono
        rw [abs_of_neg negative, abs_of_neg below]
        linarith
      omega
    · omega
  · rename_i nonneg
    rw [if_neg (by linarith)]
    have magnitudes : f32Magnitude x ≤ f32Magnitude y := by
      apply f32Magnitude_mono
      rw [abs_of_nonneg (not_lt.mp nonneg), abs_of_nonneg ((not_lt.mp nonneg).trans le)]
      exact le
    omega

def f32Places : Set ℤ := Set.Ioo (-1 - f32Infinity) f32Infinity

theorem f32Place_mem_iff (x : ℚ) : f32Place x ∈ f32Places ↔ f32Magnitude x < f32Infinity := by
  unfold f32Place f32Places
  rw [Set.mem_Ioo]
  split <;> omega

theorem asF32Bits_eq_iff {x y : ℚ} (left : f32Magnitude x < f32Infinity)
    (right : f32Magnitude y < f32Infinity) :
    asF32Bits x = asF32Bits y ↔ f32Place x = f32Place y := by
  unfold asF32Bits
  rw [min_eq_left left.le, min_eq_left right.le, ← BitVec.toNat_inj, BitVec.toNat_ofNat,
    BitVec.toNat_ofNat]
  unfold f32Place
  unfold f32Infinity at left right
  split <;> split <;> omega

end EmsGateway.Modbus
