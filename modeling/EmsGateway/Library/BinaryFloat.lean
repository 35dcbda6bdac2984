import EmsGateway.Library.Rounding

/-!
Binary floating point as a rounding of the rationals: a value goes to the nearest multiple of the
unit of its binade, halves to the even one, and below the least binade the unit stays what it is
there. The exponent has no upper end here; a value from `overflow` on is too large for the format.
-/

namespace EmsGateway.Library

structure BinaryFormat where
  precision : ℕ
  minExponent : ℤ
  maxExponent : ℤ
  normal : 0 < precision

def binary64 : BinaryFormat := ⟨53, -1022, 1023, by decide⟩

namespace BinaryFormat

variable (f : BinaryFormat)

def exponent (x : ℚ) : ℤ := max (Int.log 2 |x|) f.minExponent

/-- The value of the last place. -/
def lastPlace (x : ℚ) : ℚ := 2 ^ (f.exponent x + 1 - f.precision)

def nearest (x : ℚ) : ℚ := roundHalfEven (x / f.lastPlace x) * f.lastPlace x

def overflow : ℚ := 2 ^ (f.maxExponent + 1)

variable {f} {x y : ℚ}

theorem lastPlace_pos (x : ℚ) : 0 < f.lastPlace x := by
  unfold lastPlace
  positivity

@[simp] theorem lastPlace_neg (x : ℚ) : f.lastPlace (-x) = f.lastPlace x := by
  unfold lastPlace exponent
  rw [abs_neg]

@[simp] theorem nearest_neg (x : ℚ) : f.nearest (-x) = -f.nearest x := by
  unfold nearest
  rw [lastPlace_neg, neg_div, roundHalfEven_neg]
  push_cast
  ring

theorem nearest_nonneg (nonneg : 0 ≤ x) : 0 ≤ f.nearest x := by
  have place := lastPlace_pos (f := f) x
  have rounded : (0 : ℤ) ≤ roundHalfEven (x / f.lastPlace x) := by
    have le := roundHalfEven_mono (div_nonneg nonneg place.le)
    rwa [← Nat.cast_zero, roundHalfEven_natCast] at le
  exact mul_nonneg (by exact_mod_cast rounded) place.le

/-- A multiple of its own last place is kept. -/
theorem nearest_of_multiple (n : ℤ) (multiple : x = n * f.lastPlace x) : f.nearest x = x := by
  have place := (lastPlace_pos (f := f) x).ne'
  have whole : x / f.lastPlace x = n := by
    rw [div_eq_iff place]
    exact multiple
  unfold nearest
  rw [whole, roundHalfEven_intCast, ← multiple]

/-! Binades -/

theorem abs_lt_binade (x : ℚ) : |x| < 2 ^ (f.exponent x + 1) := by
  have top := Int.lt_zpow_succ_log_self (b := 2) (by norm_num) |x|
  refine lt_of_lt_of_le (by exact_mod_cast top) ?_
  apply zpow_le_zpow_right₀ (by norm_num)
  have := le_max_left (Int.log 2 |x|) f.minExponent
  unfold exponent
  omega

theorem binade_le_abs (nonzero : x ≠ 0) (above : f.minExponent < f.exponent x) :
    2 ^ f.exponent x ≤ |x| := by
  have exponent_eq : f.exponent x = Int.log 2 |x| := by
    unfold exponent at above ⊢
    omega
  rw [exponent_eq]
  exact_mod_cast Int.zpow_log_le_self (b := 2) (by norm_num) (abs_pos.mpr nonzero)

theorem exponent_mono (nonzero : x ≠ 0) (le : |x| ≤ |y|) : f.exponent x ≤ f.exponent y :=
  max_le_max_right _ (Int.log_mono_right (abs_pos.mpr nonzero) le)

/-- In units of the last place the ends of a binade are whole numbers. -/
theorem binade_eq (k : ℕ) (x : ℚ) :
    (2 : ℚ) ^ (f.exponent x + 1 - f.precision + k) = (2 ^ k : ℕ) * f.lastPlace x := by
  unfold lastPlace
  rw [zpow_add₀ (by norm_num), zpow_natCast]
  push_cast
  ring

theorem nearest_le_binade (x : ℚ) : f.nearest x ≤ 2 ^ (f.exponent x + 1) := by
  have place := lastPlace_pos (f := f) x
  have top := binade_eq (f := f) f.precision x
  rw [sub_add_cancel] at top
  have below : x / f.lastPlace x ≤ (2 ^ f.precision : ℕ) := by
    rw [div_le_iff₀ place, ← top]
    exact (le_abs_self x).trans (abs_lt_binade x).le
  have rounded := roundHalfEven_mono below
  rw [roundHalfEven_natCast] at rounded
  rw [top]
  unfold nearest
  gcongr
  exact_mod_cast rounded

theorem binade_le_nearest (positive : 0 < x) (above : f.minExponent < f.exponent x) :
    2 ^ f.exponent x ≤ f.nearest x := by
  have place := lastPlace_pos (f := f) x
  have bottom := binade_eq (f := f) (f.precision - 1) x
  have lower : f.exponent x + 1 - f.precision + (f.precision - 1 : ℕ) = f.exponent x := by
    have := f.normal
    omega
  rw [lower] at bottom
  have reaches : ((2 ^ (f.precision - 1) : ℕ) : ℚ) ≤ x / f.lastPlace x := by
    rw [le_div_iff₀ place, ← bottom]
    exact (binade_le_abs positive.ne' above).trans_eq (abs_of_pos positive)
  have rounded := roundHalfEven_mono reaches
  rw [roundHalfEven_natCast] at rounded
  rw [bottom]
  unfold nearest
  gcongr
  exact_mod_cast rounded

/-! Order -/

theorem nearest_mono_of_pos (positive : 0 < x) (le : x ≤ y) : f.nearest x ≤ f.nearest y := by
  have abs_le : |x| ≤ |y| := abs_le_abs_of_nonneg positive.le le
  rcases (exponent_mono (f := f) positive.ne' abs_le).lt_or_eq with less | same
  · -- rounding up ends at the next binade at the latest, where `y` lies or below it
    have above : f.minExponent < f.exponent y := lt_of_le_of_lt (le_max_right _ _) less
    calc f.nearest x ≤ 2 ^ (f.exponent x + 1) := nearest_le_binade x
      _ ≤ 2 ^ f.exponent y := zpow_le_zpow_right₀ (by norm_num) less
      _ ≤ f.nearest y := binade_le_nearest (positive.trans_le le) above
  · have places : f.lastPlace x = f.lastPlace y := by
      unfold lastPlace
      rw [same]
    have place := lastPlace_pos (f := f) y
    have rounded : roundHalfEven (x / f.lastPlace y) ≤ roundHalfEven (y / f.lastPlace y) :=
      roundHalfEven_mono (by gcongr)
    unfold nearest
    rw [places]
    gcongr

theorem nearest_mono : Monotone f.nearest := by
  intro x y le
  rcases lt_or_ge 0 x with positive | nonpos
  · exact nearest_mono_of_pos positive le
  · have low : f.nearest x ≤ 0 := by
      have mirrored := nearest_nonneg (f := f) (neg_nonneg.mpr nonpos)
      rw [nearest_neg] at mirrored
      linarith
    rcases le_or_gt 0 y with nonneg | negative
    · exact low.trans (nearest_nonneg nonneg)
    · have mirrored := nearest_mono_of_pos (f := f) (neg_pos.mpr negative) (neg_le_neg le)
      rw [nearest_neg, nearest_neg] at mirrored
      linarith

/-! Whole numbers -/

/-- Whole numbers that the precision has room for are kept. -/
theorem nearest_intCast (coarse : f.minExponent < f.precision) {n : ℤ}
    (small : |n| < 2 ^ f.precision) : f.nearest n = n := by
  have exponent_lt : f.exponent (n : ℚ) < f.precision := by
    refine max_lt ?_ coarse
    by_cases zero : n = 0
    · simp [zero, f.normal]
    · have lower : (2 : ℚ) ^ Int.log 2 |(n : ℚ)| ≤ |(n : ℚ)| := by
        exact_mod_cast Int.zpow_log_le_self (b := 2) (r := |(n : ℚ)|) (by norm_num) (by
          rw [abs_pos]
          exact_mod_cast zero)
      have upper : |(n : ℚ)| < 2 ^ (f.precision : ℤ) := by
        rw [zpow_natCast]
        exact_mod_cast small
      exact (zpow_lt_zpow_iff_right₀ (by norm_num)).mp (lower.trans_lt upper)
  obtain ⟨k, places⟩ : ∃ k : ℕ, f.exponent (n : ℚ) + 1 - f.precision = -(k : ℤ) :=
    ⟨(f.precision - 1 - f.exponent (n : ℚ)).toNat, by omega⟩
  apply nearest_of_multiple (n * 2 ^ k)
  unfold lastPlace
  rw [places, zpow_neg, zpow_natCast]
  push_cast
  field_simp

end BinaryFormat

example : binary64.nearest (1 / 10) = 3602879701896397 / 2 ^ 55 := by
  decide +kernel

end EmsGateway.Library
