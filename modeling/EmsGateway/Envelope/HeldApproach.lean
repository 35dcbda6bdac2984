import EmsGateway.Envelope.ControlLawSafety

/-!
What a share handoff's hold lets through. The hold freezes the side the module is heading toward:
the ceiling of a module that discharges, the floor of one that charges. A ceiling is never lifted by
it, so a cut on an export violation always goes through; a floor raised by an import violation gives
way to the frozen ceiling while the module discharges.
-/

namespace EmsGateway.Envelope

open EmsGateway.Library

theorem uncross_ordered (floor : WithBot ℚ) (ceiling : WithTop ℚ) (importWins : Bool) {low : ℚ}
    (found : (uncross floor ceiling importWins).1 = (low : WithBot ℚ)) :
    (low : WithTop ℚ) ≤ (uncross floor ceiling importWins).2 := by
  induction floor with
  | bot => simp [uncross] at found
  | coe first =>
      induction ceiling with
      | top => simp [uncross]
      | coe high =>
          simp only [uncross] at found ⊢
          split at found
          · rename_i crossed
            split at found
            · simp_all
            · simp_all
          · rename_i ordered
            obtain rfl := WithBot.coe_inj.mp found
            rw [if_neg ordered]
            exact WithTop.coe_le_coe.mpr (not_lt.mp ordered)

theorem servoBounds_ordered {u pPoi : ℚ} {importSide exportSide : Limit} {dt : Duration} {low : ℚ}
    (found : (servoBounds u pPoi importSide exportSide dt).floor = (low : WithBot ℚ)) :
    (low : WithTop ℚ) ≤ (servoBounds u pPoi importSide exportSide dt).ceiling :=
  uncross_ordered _ _ _ found

theorem le_holdApproach_of_charging {u bound : ℚ} {b : Bounds} (charging : u < 0)
    (belowFloor : (bound : WithBot ℚ) ≤ b.floor) (belowCeiling : (bound : WithTop ℚ) ≤ b.ceiling) :
    (bound : WithBot ℚ) ≤ (holdApproach u b).floor ∧
      (bound : WithTop ℚ) ≤ (holdApproach u b).ceiling := by
  simp only [holdApproach, if_neg (not_le.mpr charging)]
  exact ⟨le_floorBelow (le_max_of_le_left belowFloor) belowCeiling, belowCeiling⟩

namespace EnvelopeController

theorem le_target {c : EnvelopeController} {input : EnvelopeTick} {bound : ℚ}
    (belowFloor : (bound : WithBot ℚ) ≤ (c.tickBounds input).floor)
    (belowCeiling : (bound : WithTop ℚ) ≤ (c.tickBounds input).ceiling)
    (rated : bound ≤ input.powerMax) : bound ≤ c.target input := by
  refine le_trans (le_min ?_ ?_) (c.floor_le_target input)
  · exact WithBot.coe_le_coe.mp (belowFloor.trans (bound_le_raiseTo _ _))
  · exact (le_capAt_iff _ _ _).mpr ⟨belowCeiling, rated⟩

/-- A tick that finds a violation clamps at once, up to the step that counts as no change. -/
theorem advance_of_violated {c : EnvelopeController} {input : EnvelopeTick}
    (violated : exportRoom input ≤ 0 ∨ importRoom input ≤ 0) :
    |(c.advance input).currentOutput - c.target input| < epsilon := by
  rw [← (c.tickBounds_headrooms input).1, ← (c.tickBounds_headrooms input).2] at violated
  simp only [advance, tick, if_pos violated]
  rcases write_output { c.remember input with mode := .constrained, dwellElapsed := 0 }
    (c.target input) with written | ⟨kept, small⟩
  · rw [written, sub_self, abs_zero]
    exact epsilon_pos
  · rw [kept, abs_sub_comm]
    exact small

section Held

variable {c : EnvelopeController} {input : EnvelopeTick} {pPoi : ℚ}
  (reading : input.poiActivePower = some pPoi) (held : input.holdApproach = true)

include reading held

theorem tickBounds_held :
    c.tickBounds input = Envelope.holdApproach c.currentOutput (c.servoAt input pPoi) := by
  rw [tickBounds_poi reading, held]
  rfl

theorem target_le_servo : ((c.target input : ℚ) : WithTop ℚ) ≤ (c.servoAt input pPoi).ceiling := by
  calc ((c.target input : ℚ) : WithTop ℚ)
      ≤ ((c.ceiling input : ℚ) : WithTop ℚ) := WithTop.coe_le_coe.mpr (c.target_le_ceiling input)
    _ ≤ (c.tickBounds input).ceiling := capAt_le_bound _ _
    _ ≤ (c.servoAt input pPoi).ceiling := by
        rw [tickBounds_held reading held]
        exact holdApproach_ceiling_le _ _

theorem servo_le_target {low : ℚ} (found : (c.servoAt input pPoi).floor = (low : WithBot ℚ))
    {bound : ℚ} (below : bound ≤ low) (rated : bound ≤ input.powerMax)
    (free : c.currentOutput < 0 ∨ bound ≤ c.currentOutput) : bound ≤ c.target input := by
  have belowFloor : (bound : WithBot ℚ) ≤ (c.servoAt input pPoi).floor := by
    rw [found]
    exact WithBot.coe_le_coe.mpr below
  have belowCeiling : (bound : WithTop ℚ) ≤ (c.servoAt input pPoi).ceiling :=
    (WithTop.coe_le_coe.mpr below).trans (servoBounds_ordered found)
  have kept : (bound : WithBot ℚ) ≤ (c.tickBounds input).floor ∧
      (bound : WithTop ℚ) ≤ (c.tickBounds input).ceiling := by
    rw [tickBounds_held reading held]
    rcases free with charging | present
    · exact le_holdApproach_of_charging charging belowFloor belowCeiling
    · exact le_holdApproach present belowFloor belowCeiling
  exact le_target kept.1 kept.2 rated

end Held

/-- During a handoff an export violation is always corrected, and an import violation is as long as
the module charges; while it discharges, its output is kept where it is. -/
theorem held_tick_corrects (c : EnvelopeController) {input : EnvelopeTick} {pPoi : ℚ}
    (reading : input.poiActivePower = some pPoi) (held : input.holdApproach = true) :
    (exportRoom input < 0 →
      (((c.advance input).currentOutput - epsilon : ℚ) : WithTop ℚ) <
        max (input.powerMin : WithTop ℚ) (c.servoAt input pPoi).ceiling) ∧
    (importRoom input < 0 → c.currentOutput < 0 →
      min (input.powerMax : WithBot ℚ) (c.servoAt input pPoi).floor <
        (((c.advance input).currentOutput + epsilon : ℚ) : WithBot ℚ)) ∧
    (importRoom input < 0 → 0 ≤ c.currentOutput →
      min (c.currentOutput : WithBot ℚ)
          (min (input.powerMax : WithBot ℚ) (c.servoAt input pPoi).floor) <
        (((c.advance input).currentOutput + epsilon : ℚ) : WithBot ℚ)) := by
  refine ⟨?_, ?_, ?_⟩
  · intro exporting
    have near := abs_lt.mp (advance_of_violated (c := c) (.inl exporting.le))
    refine lt_max_of_lt_right (lt_of_lt_of_le ?_ (target_le_servo (c := c) reading held))
    exact WithTop.coe_lt_coe.mpr (by linarith [near.2])
  · intro importing charging
    have near := abs_lt.mp (advance_of_violated (c := c) (.inr importing.le))
    cases found : (c.servoAt input pPoi).floor with
    | bot => simp
    | coe low =>
        have reached : min input.powerMax low ≤ c.target input :=
          servo_le_target reading held found (min_le_right _ _) (min_le_left _ _) (.inl charging)
        rw [← WithBot.coe_min, WithBot.coe_lt_coe]
        linarith [near.1]
  · intro importing discharging
    have near := abs_lt.mp (advance_of_violated (c := c) (.inr importing.le))
    cases found : (c.servoAt input pPoi).floor with
    | bot => simp
    | coe low =>
        have reached : min c.currentOutput (min input.powerMax low) ≤ c.target input :=
          servo_le_target reading held found ((min_le_right _ _).trans (min_le_right _ _))
            ((min_le_right _ _).trans (min_le_left _ _)) (.inr (min_le_left _ _))
        rw [← WithBot.coe_min, ← WithBot.coe_min, WithBot.coe_lt_coe]
        linarith [near.1]

def importingWhileHeld : EnvelopeTick :=
  { importLimit := some 0
    exportLimit := none
    activePower := 10
    requestedSetpoint := 50
    poiActivePower := some 100
    poiFresh := true
    holdApproach := true
    powerMin := -100
    powerMax := 100
    dt := Duration.fromSecs 1 }

def exportingAHair : EnvelopeTick :=
  { importingWhileHeld with
    importLimit := none
    exportLimit := some 0
    activePower := 0
    poiActivePower := some (-epsilon / 2) }

/-- A discharging module is not raised to the servo's floor of 110, and an export violation of a
hair is not corrected at all. -/
theorem held_tick_leaves_violation :
    (WithinRating (-100) 100 (new plainConfig 10).currentOutput ∧
      importRoom importingWhileHeld < 0 ∧
      ((new plainConfig 10).advance importingWhileHeld).currentOutput = 10 ∧
      ¬min ((100 : ℚ) : WithBot ℚ) ((new plainConfig 10).servoAt importingWhileHeld 100).floor ≤
        ((((new plainConfig 10).advance importingWhileHeld).currentOutput : ℚ) : WithBot ℚ)) ∧
    (WithinRating (-100) 100 (new plainConfig 0).currentOutput ∧
      exportRoom exportingAHair < 0 ∧
      ((new plainConfig 0).advance exportingAHair).currentOutput = 0 ∧
      ¬((((new plainConfig 0).advance exportingAHair).currentOutput : ℚ) : WithTop ℚ) ≤
        max ((-100 : ℚ) : WithTop ℚ)
          ((new plainConfig 0).servoAt exportingAHair (-epsilon / 2)).ceiling) := by
  decide +kernel

theorem held_tick_corrects_exporting :
    exportRoom { importingWhileHeld with exportLimit := some 0, poiActivePower := some (-50) } < 0 ∧
      (((((new plainConfig 10).advance { importingWhileHeld with
            exportLimit := some 0, poiActivePower := some (-50) }).currentOutput -
          epsilon : ℚ)) : WithTop ℚ) <
        max ((-100 : ℚ) : WithTop ℚ) ((new plainConfig 10).servoAt { importingWhileHeld with
          exportLimit := some 0, poiActivePower := some (-50) } (-50)).ceiling :=
  ⟨by decide +kernel, (@held_tick_corrects (new plainConfig 10) _ (-50) rfl rfl).1
    (by decide +kernel)⟩

end EnvelopeController

end EmsGateway.Envelope
