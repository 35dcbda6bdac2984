import Mathlib

/-!
One-sided bounds that may be absent. An upper bound is a `WithTop`, a lower bound a
`WithBot`; meeting a finite value makes either finite again. `clampTo` follows the two
comparisons of a floating-point clamp.
-/

namespace EmsGateway.Library

variable {α : Type*} [LinearOrder α]

def capAt (bound : WithTop α) (value : α) : α :=
  match bound with
  | ⊤ => value
  | (limit : α) => min limit value

def raiseTo (bound : WithBot α) (value : α) : α :=
  match bound with
  | ⊥ => value
  | (limit : α) => max limit value

@[simp] theorem capAt_top (value : α) : capAt ⊤ value = value := rfl

@[simp] theorem capAt_coe (limit value : α) : capAt (limit : WithTop α) value = min limit value :=
  rfl

@[simp] theorem raiseTo_bot (value : α) : raiseTo ⊥ value = value := rfl

@[simp] theorem raiseTo_coe (limit value : α) :
    raiseTo (limit : WithBot α) value = max limit value := rfl

theorem capAt_le (bound : WithTop α) (value : α) : capAt bound value ≤ value := by
  induction bound with
  | top => simp
  | coe limit => simp

theorem le_capAt_iff (bound : WithTop α) (value low : α) :
    low ≤ capAt bound value ↔ (low : WithTop α) ≤ bound ∧ low ≤ value := by
  induction bound with
  | top => simp
  | coe limit => simp

theorem capAt_le_bound (bound : WithTop α) (value : α) :
    ((capAt bound value : α) : WithTop α) ≤ bound :=
  ((le_capAt_iff bound value _).mp le_rfl).1

theorem le_raiseTo (bound : WithBot α) (value : α) : value ≤ raiseTo bound value := by
  induction bound with
  | bot => simp
  | coe limit => simp

theorem raiseTo_le_iff (bound : WithBot α) (value high : α) :
    raiseTo bound value ≤ high ↔ bound ≤ (high : WithBot α) ∧ value ≤ high := by
  induction bound with
  | bot => simp
  | coe limit => simp

theorem bound_le_raiseTo (bound : WithBot α) (value : α) :
    bound ≤ ((raiseTo bound value : α) : WithBot α) :=
  ((raiseTo_le_iff bound value _).mp le_rfl).1

def clampTo (value low high : α) : α :=
  if value < low then low else if high < value then high else value

theorem clampTo_mem {value low high : α} (ordered : low ≤ high) :
    low ≤ clampTo value low high ∧ clampTo value low high ≤ high := by
  unfold clampTo
  split
  · exact ⟨le_rfl, ordered⟩
  · rename_i notBelow
    split
    · exact ⟨ordered, le_rfl⟩
    · rename_i notAbove
      exact ⟨not_lt.mp notBelow, not_lt.mp notAbove⟩

theorem clampTo_of_le_low {value low high : α} (ordered : low ≤ high) (below : value ≤ low) :
    clampTo value low high = low := by
  unfold clampTo
  split
  · rfl
  · rename_i notBelow
    have same : value = low := le_antisymm below (not_lt.mp notBelow)
    rw [if_neg (not_lt.mpr (same.le.trans ordered)), same]

end EmsGateway.Library
