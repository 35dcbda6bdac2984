import EmsGateway.Library.BinaryFloat
import EmsGateway.Modbus.CodecCore

/-!
`f64` arithmetic with its rounding, and the raw value and the write of a setpoint in it. There is
one zero: dividing by it gives the infinity of the dividend's sign.
-/

namespace EmsGateway.Modbus

open EmsGateway.Library

namespace F64

def round (exact : ℚ) : F64 :=
  if binary64.overflow ≤ |binary64.nearest exact| then .infinite (exact < 0)
  else .finite (binary64.nearest exact)

def neg (x : F64) : F64 :=
  match x with
  | .finite x => .finite (-x)
  | .infinite negative => .infinite !negative
  | .nan => .nan

def add (x y : F64) : F64 :=
  match x, y with
  | .finite x, .finite y => round (x + y)
  | .infinite s, .infinite t => if s = t then .infinite s else .nan
  | .infinite s, .finite _ => .infinite s
  | .finite _, .infinite t => .infinite t
  | .nan, _ => .nan
  | _, .nan => .nan

def sub (x y : F64) : F64 := x.add y.neg

def mul (x y : F64) : F64 :=
  match x, y with
  | .finite x, .finite y => round (x * y)
  | .infinite s, .infinite t => .infinite (s != t)
  | .infinite s, .finite y => if y = 0 then .nan else .infinite (s != decide (y < 0))
  | .finite x, .infinite t => if x = 0 then .nan else .infinite (t != decide (x < 0))
  | .nan, _ => .nan
  | _, .nan => .nan

def div (x y : F64) : F64 :=
  match x, y with
  | .finite x, .finite y =>
      if y = 0 then if x = 0 then .nan else .infinite (x < 0) else round (x / y)
  | .infinite _, .infinite _ => .nan
  | .infinite s, .finite y => .infinite (s != decide (y < 0))
  | .finite _, .infinite _ => .finite 0
  | .nan, _ => .nan
  | _, .nan => .nan

def sum (values : List ℚ) : F64 :=
  values.foldl (fun total value => total.add (.finite value)) (.finite 0)

theorem round_eq_finite_iff {exact x : ℚ} : round exact = .finite x ↔
    |binary64.nearest exact| < binary64.overflow ∧ binary64.nearest exact = x := by
  unfold round
  split
  · rename_i large
    constructor
    · intro same
      simp at same
    · rintro ⟨small, _⟩
      exact absurd large (not_le.mpr small)
  · rename_i small
    rw [F64.finite.injEq]
    exact (and_iff_right (not_le.mp small)).symm

theorem sub_finite (x y : ℚ) : sub (.finite x) (.finite y) = round (x - y) := by
  rw [sub_eq_add_neg]
  rfl

theorem div_finite (x : ℚ) {y : ℚ} (nonzero : y ≠ 0) :
    div (.finite x) (.finite y) = round (x / y) := if_neg nonzero

end F64

/-! `to_raw` -/

def toRawF64 (value scale offset : ℚ) : F64 :=
  ((F64.finite value).sub (.finite offset)).div (.finite scale)

/-- What `write_setpoint` hands to the session. -/
def writeSetpointF64 (binding : ModbusTcpBinding) (value : ℚ) : Except String WriteRequest := do
  let function ← writeFunction binding.functionCode binding.dataType
  let words ← encodeRaw (toRawF64 value binding.scale binding.offset) binding.dataType
    binding.wordOrder
  let unit ← unitId binding
  return ⟨unit, binding.address, words, function⟩

variable {value scale offset : ℚ}

/-- The raw value comes out of two roundings, unless one of them overflows. -/
theorem toRawF64_eq_finite_iff {raw : ℚ} : toRawF64 value scale offset = .finite raw ↔
    scale ≠ 0 ∧ |binary64.nearest (value - offset)| < binary64.overflow ∧
      |binary64.nearest (binary64.nearest (value - offset) / scale)| < binary64.overflow ∧
      binary64.nearest (binary64.nearest (value - offset) / scale) = raw := by
  unfold toRawF64
  rw [F64.sub_finite]
  by_cases small : |binary64.nearest (value - offset)| < binary64.overflow
  · rw [F64.round_eq_finite_iff.mpr ⟨small, rfl⟩]
    by_cases zero : scale = 0
    · have unbounded : ∀ x : ℚ, (F64.finite x).div (.finite scale) ≠ .finite raw := by
        intro x
        rw [zero, F64.div, if_pos rfl]
        split <;> simp
      exact iff_of_false (unbounded _) fun ⟨nonzero, _⟩ => nonzero zero
    · rw [F64.div_finite _ zero, F64.round_eq_finite_iff]
      exact ⟨fun rest => ⟨zero, small, rest⟩, fun ⟨_, _, rest⟩ => rest⟩
  · rw [F64.round, if_pos (not_lt.mp small)]
    exact iff_of_false (by simp [F64.div]) fun ⟨_, less, _⟩ => small less

/-! Whole numbers in whole units -/

theorem toRawF64_of_whole {value offset : ℤ} (small : |value - offset| < 2 ^ 53) :
    toRawF64 value 1 offset = .finite (value - offset) := by
  have kept : binary64.nearest ((value : ℚ) - offset) = value - offset := by
    have integer := BinaryFormat.nearest_intCast (f := binary64) (by decide) small
    push_cast at integer
    exact integer
  have bounded : |(value : ℚ) - offset| < binary64.overflow := by
    have below : |(value : ℚ) - offset| < 2 ^ (53 : ℤ) := by exact_mod_cast small
    exact below.trans_le (zpow_le_zpow_right₀ (by norm_num) (by decide))
  rw [toRawF64_eq_finite_iff, kept, div_one, kept]
  exact ⟨one_ne_zero, bounded, bounded, rfl⟩

/-- There the write is that of exact arithmetic. -/
theorem writeSetpointF64_of_whole {binding : ModbusTcpBinding} {value offset : ℤ}
    (unit : binding.scale = 1) (whole : binding.offset = offset)
    (small : |value - offset| < 2 ^ 53) :
    writeSetpointF64 binding value = writeSetpoint binding value := by
  have raw : toRaw value 1 offset = .finite (value - offset) := by
    rw [toRaw, if_neg one_ne_zero, div_one]
  rw [writeSetpointF64, writeSetpoint, unit, whole, toRawF64_of_whole small, raw]

end EmsGateway.Modbus
