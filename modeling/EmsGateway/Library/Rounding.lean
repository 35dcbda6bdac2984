import Mathlib

/-!
Rounding to the nearest integer: halves away from zero, or to the even one of the two. Mathlib's
`round` sends halves up, so for the first the negative side is mirrored.
-/

namespace EmsGateway.Library

variable {α : Type*} [Field α] [LinearOrder α] [IsStrictOrderedRing α] [FloorRing α]

def roundHalfAway (x : α) : ℤ := if 0 ≤ x then round x else -round (-x)

@[simp] theorem roundHalfAway_intCast (n : ℤ) : roundHalfAway (n : α) = n := by
  unfold roundHalfAway
  split
  · exact round_intCast n
  · rw [← Int.cast_neg, round_intCast, neg_neg]

theorem abs_sub_roundHalfAway (x : α) : |x - roundHalfAway x| ≤ 1 / 2 := by
  unfold roundHalfAway
  split
  · exact abs_sub_round x
  · have mirrored := abs_sub_round (-x)
    rw [Int.cast_neg, sub_neg_eq_add, ← abs_neg, neg_add, ← sub_eq_add_neg]
    exact mirrored

theorem roundHalfAway_mono {x y : α} (le : x ≤ y) : roundHalfAway x ≤ roundHalfAway y := by
  unfold roundHalfAway
  simp only [round_eq]
  split
  · rename_i nonneg
    rw [if_pos (nonneg.trans le)]
    exact Int.floor_le_floor (by linarith)
  · rename_i negative
    have below : 0 ≤ ⌊-x + 1 / 2⌋ := Int.floor_nonneg.mpr (by linarith [not_le.mp negative])
    split
    · have above : 0 ≤ ⌊y + 1 / 2⌋ := Int.floor_nonneg.mpr (by linarith)
      omega
    · exact neg_le_neg (Int.floor_le_floor (by linarith))

/-- Two values a whole unit apart could only share an integer halfway below and halfway above it,
and one of these halves goes away from zero. -/
theorem roundHalfAway_ne {x y : α} (far : x + 1 ≤ y) : roundHalfAway x ≠ roundHalfAway y := by
  intro same
  have below := abs_le.mp (abs_sub_roundHalfAway x)
  have above := abs_le.mp (abs_sub_roundHalfAway y)
  rw [← same] at above
  obtain ⟨n, rounded⟩ : ∃ n, roundHalfAway x = n := ⟨_, rfl⟩
  rw [rounded] at same below above
  have low : x = n - 1 / 2 := by linarith
  have high : y = n + 1 / 2 := by linarith
  have upper : y + 1 / 2 = (n + 1 : ℤ) := by
    rw [high]
    push_cast
    ring
  have lower : -x + 1 / 2 = (-n + 1 : ℤ) := by
    rw [low]
    push_cast
    ring
  by_cases nonneg : 0 ≤ x
  · have positive : 0 ≤ y := by linarith
    rw [roundHalfAway, if_pos positive, round_eq, upper, Int.floor_intCast] at same
    omega
  · rw [roundHalfAway, if_neg nonneg, round_eq, lower, Int.floor_intCast] at rounded
    omega

theorem abs_roundHalfAway_sub_le {x y : α} (near : |x - y| < 1) :
    |roundHalfAway x - roundHalfAway y| ≤ 1 := by
  have left := abs_le.mp (abs_sub_roundHalfAway x)
  have right := abs_le.mp (abs_sub_roundHalfAway y)
  have close := abs_lt.mp near
  have strict : |((roundHalfAway x - roundHalfAway y : ℤ) : α)| < 2 := by
    push_cast
    rw [abs_lt]
    constructor <;> linarith
  have whole : |roundHalfAway x - roundHalfAway y| < 2 := by exact_mod_cast strict
  omega

/-- Counting in units of `scale` loses at most half a unit. -/
theorem abs_roundHalfAway_div_mul_sub {scale : α} (nonzero : scale ≠ 0) (value : α) :
    |roundHalfAway (value / scale) * scale - value| ≤ |scale| / 2 := by
  have units : roundHalfAway (value / scale) * scale - value =
      -((value / scale - roundHalfAway (value / scale)) * scale) := by
    field_simp
    ring
  rw [units, abs_neg, abs_mul]
  calc |value / scale - roundHalfAway (value / scale)| * |scale|
      ≤ 1 / 2 * |scale| := by
        gcongr
        exact abs_sub_roundHalfAway _
    _ = |scale| / 2 := by ring

example : roundHalfAway (5 / 2 : ℚ) = 3 ∧ roundHalfAway (-5 / 2 : ℚ) = -3 := by
  decide +kernel

/-! Halves to even -/

def roundHalfEven (x : α) : ℤ :=
  if Int.fract x < 1 / 2 then ⌊x⌋
  else if 1 / 2 < Int.fract x then ⌊x⌋ + 1
  else if ⌊x⌋ % 2 = 0 then ⌊x⌋ else ⌊x⌋ + 1

omit [IsStrictOrderedRing α] in
theorem roundHalfEven_cases (x : α) : roundHalfEven x = ⌊x⌋ ∨ roundHalfEven x = ⌊x⌋ + 1 := by
  unfold roundHalfEven
  split_ifs
  · exact .inl rfl
  · exact .inr rfl
  · exact .inl rfl
  · exact .inr rfl

theorem roundHalfEven_mono {x y : α} (le : x ≤ y) : roundHalfEven x ≤ roundHalfEven y := by
  rcases (Int.floor_le_floor le).lt_or_eq with less | same
  · -- the result is the floor or one more, on either side
    have low := roundHalfEven_cases x
    have high := roundHalfEven_cases y
    omega
  · have fraction : Int.fract x ≤ Int.fract y := by
      unfold Int.fract
      rw [same]
      linarith
    unfold roundHalfEven
    rw [same]
    split_ifs <;> first | omega | linarith

@[simp] theorem roundHalfEven_intCast (n : ℤ) : roundHalfEven (n : α) = n := by
  simp [roundHalfEven]

@[simp] theorem roundHalfEven_natCast (n : ℕ) : roundHalfEven (n : α) = n := by
  simp [roundHalfEven]

theorem roundHalfEven_neg (x : α) : roundHalfEven (-x) = -roundHalfEven x := by
  by_cases whole : Int.fract x = 0
  · have integer : x = ⌊x⌋ := by
      have parts := Int.floor_add_fract x
      rw [whole, add_zero] at parts
      exact parts.symm
    rw [integer, ← Int.cast_neg, roundHalfEven_intCast, roundHalfEven_intCast]
  · have floor : ⌊-x⌋ = -⌊x⌋ - 1 := by
      have positive := lt_of_le_of_ne (Int.fract_nonneg x) (Ne.symm whole)
      have below := Int.fract_lt_one x
      have parts := Int.floor_add_fract x
      rw [Int.floor_eq_iff]
      push_cast
      constructor <;> linarith
    have fraction : Int.fract (-x) = 1 - Int.fract x := Int.fract_neg whole
    unfold roundHalfEven
    rw [floor, fraction]
    split_ifs <;> first | omega | linarith

end EmsGateway.Library
