import EmsGateway.Envelope.ControlLaw

/-!
What the POI servo's bounds allow. A limit that did not change has no jump, so its side moves
by the approach gain toward it, or backs off a violation; backing off never takes more than
the approach gain allows on the opposite side as long as the two limits leave a band between
them. The lemmas on `uncross` and `holdApproach` say what re-ordering the bounds preserves.
-/

namespace EmsGateway.Envelope

open EmsGateway.Library

@[simp] theorem headroom_none (signedPoi : ℚ) : headroom signedPoi none = ⊤ := rfl

@[simp] theorem headroom_some (signedPoi limit : ℚ) :
    headroom signedPoi (some limit) = ((signedPoi + limit : ℚ) : WithTop ℚ) := rfl

@[simp] theorem lowered_coe (u down : ℚ) :
    lowered u (down : WithTop ℚ) = ((u - down : ℚ) : WithBot ℚ) := rfl

theorem jump_unchanged (signedPoi : ℚ) (limit : Option ℚ) :
    jump signedPoi ⟨limit, limit⟩ (headroom signedPoi limit) = 0 := by
  simp [jump]

theorem step_none (signedPoi : ℚ) (prev : Option ℚ) (room opposite : WithTop ℚ) (dt : Duration) :
    step signedPoi ⟨none, prev⟩ room opposite dt = ⊤ := rfl

theorem step_some (signedPoi limit : ℚ) (prev : Option ℚ) (opposite : WithTop ℚ) (dt : Duration) :
    step signedPoi ⟨some limit, prev⟩ (headroom signedPoi (some limit)) opposite dt =
      (((if 0 ≤ signedPoi + limit +
            jump signedPoi ⟨some limit, prev⟩ (headroom signedPoi (some limit)) then
          approachGainPerSec * (signedPoi + limit +
            jump signedPoi ⟨some limit, prev⟩ (headroom signedPoi (some limit)))
        else -backOffRate (-(signedPoi + limit +
            jump signedPoi ⟨some limit, prev⟩ (headroom signedPoi (some limit)))) opposite) *
          Duration.asSecs dt -
        jump signedPoi ⟨some limit, prev⟩ (headroom signedPoi (some limit)) : ℚ) :
          WithTop ℚ) := rfl

theorem step_unchanged (signedPoi limit : ℚ) (opposite : WithTop ℚ) (dt : Duration) :
    step signedPoi ⟨some limit, some limit⟩ (headroom signedPoi (some limit)) opposite dt =
      (((if 0 ≤ signedPoi + limit then approachGainPerSec * (signedPoi + limit)
        else -backOffRate (-(signedPoi + limit)) opposite) * Duration.asSecs dt : ℚ) :
          WithTop ℚ) := by
  rw [step_some, jump_unchanged]
  simp

theorem backOffRate_le {excess opposite : ℚ} (band : excess ≤ opposite) :
    backOffRate excess (opposite : WithTop ℚ) ≤ approachGainPerSec * opposite := by
  have gain : (0 : ℚ) ≤ approachGainPerSec := by norm_num [approachGainPerSec]
  exact max_le (min_le_left _ _) (mul_le_mul_of_nonneg_left band gain)

theorem backOffRate_nonneg {excess : ℚ} (nonneg : 0 ≤ excess) (opposite : WithTop ℚ) :
    0 ≤ backOffRate excess opposite :=
  le_max_of_le_right (mul_nonneg (by norm_num [approachGainPerSec]) nonneg)

@[simp] theorem uncross_ceiling (floor : WithBot ℚ) (ceiling : WithTop ℚ) :
    (uncross floor ceiling false).2 = ceiling := by
  induction floor with
  | bot => rfl
  | coe low =>
      induction ceiling with
      | top => rfl
      | coe high =>
          simp only [uncross]
          split <;> simp

theorem ceiling_le_uncross (floor : WithBot ℚ) (ceiling : WithTop ℚ) (importWins : Bool) :
    ceiling ≤ (uncross floor ceiling importWins).2 := by
  induction floor with
  | bot => exact le_rfl
  | coe low =>
      induction ceiling with
      | top => exact le_rfl
      | coe high =>
          simp only [uncross]
          split
          · rename_i crossed
            split
            · exact WithTop.coe_le_coe.mpr crossed.le
            · exact le_rfl
          · exact le_rfl

theorem floor_le_uncross (low : ℚ) (ceiling : WithTop ℚ) :
    (low : WithTop ℚ) ≤ (uncross (low : WithBot ℚ) ceiling true).2 := by
  induction ceiling with
  | top => exact le_top
  | coe high =>
      simp only [uncross]
      split
      · exact le_rfl
      · rename_i ordered
        exact WithTop.coe_le_coe.mpr (not_lt.mp ordered)

theorem le_uncross {floor : WithBot ℚ} {ceiling : WithTop ℚ} {bound : ℚ} (importWins : Bool)
    (belowFloor : (bound : WithBot ℚ) ≤ floor) (belowCeiling : (bound : WithTop ℚ) ≤ ceiling) :
    (bound : WithBot ℚ) ≤ (uncross floor ceiling importWins).1 ∧
      (bound : WithTop ℚ) ≤ (uncross floor ceiling importWins).2 := by
  induction floor with
  | bot => simp at belowFloor
  | coe low =>
      induction ceiling with
      | top => exact ⟨belowFloor, belowCeiling⟩
      | coe high =>
          have lowBound : bound ≤ low := WithBot.coe_le_coe.mp belowFloor
          have highBound : bound ≤ high := WithTop.coe_le_coe.mp belowCeiling
          simp only [uncross]
          split
          · split
            · exact ⟨WithBot.coe_le_coe.mpr lowBound, WithTop.coe_le_coe.mpr lowBound⟩
            · exact ⟨WithBot.coe_le_coe.mpr highBound, WithTop.coe_le_coe.mpr highBound⟩
          · exact ⟨belowFloor, belowCeiling⟩

theorem le_floorBelow {floor : WithBot ℚ} {ceiling : WithTop ℚ} {bound : ℚ}
    (belowFloor : (bound : WithBot ℚ) ≤ floor) (belowCeiling : (bound : WithTop ℚ) ≤ ceiling) :
    (bound : WithBot ℚ) ≤ floorBelow floor ceiling := by
  induction ceiling with
  | top => exact belowFloor
  | coe high =>
      refine le_min belowFloor (WithBot.coe_le_coe.mpr ?_)
      exact WithTop.coe_le_coe.mp belowCeiling

theorem holdApproach_ceiling_le (u : ℚ) (b : Bounds) :
    (holdApproach u b).ceiling ≤ b.ceiling := by
  simp only [holdApproach]
  split
  · exact min_le_left _ _
  · exact le_rfl

theorem le_holdApproach_ceiling {u bound : ℚ} {b : Bounds} (present : bound ≤ u)
    (belowCeiling : (bound : WithTop ℚ) ≤ b.ceiling) :
    (bound : WithTop ℚ) ≤ (holdApproach u b).ceiling := by
  simp only [holdApproach]
  split
  · exact le_min belowCeiling (WithTop.coe_le_coe.mpr present)
  · exact belowCeiling

theorem le_holdApproach {u bound : ℚ} {b : Bounds} (present : bound ≤ u)
    (belowFloor : (bound : WithBot ℚ) ≤ b.floor) (belowCeiling : (bound : WithTop ℚ) ≤ b.ceiling) :
    (bound : WithBot ℚ) ≤ (holdApproach u b).floor ∧
      (bound : WithTop ℚ) ≤ (holdApproach u b).ceiling := by
  have ceiling := le_holdApproach_ceiling present belowCeiling
  refine ⟨le_floorBelow ?_ ceiling, ceiling⟩
  split
  · exact belowFloor
  · exact le_max_of_le_left belowFloor

/-! A limit that tightens. Its `excess` is how far the flow is past it; the new part of an
excess is the jump and the standing part is backed off. -/

def excess (signedPoi : ℚ) (limit : Option ℚ) : ℚ :=
  match limit with
  | none => 0
  | some l => max (-(signedPoi + l)) 0

def Limit.Tightens (limit : Limit) (signedPoi : ℚ) : Prop :=
  excess signedPoi limit.prev < excess signedPoi limit.now

instance (limit : Limit) (signedPoi : ℚ) : Decidable (limit.Tightens signedPoi) :=
  inferInstanceAs (Decidable (_ < _))

def Limit.cut (limit : Limit) (signedPoi : ℚ) (opposite : WithTop ℚ) (seconds : ℚ) : ℚ :=
  max (excess signedPoi limit.now - excess signedPoi limit.prev) 0 +
    backOffRate (min (excess signedPoi limit.now) (excess signedPoi limit.prev)) opposite * seconds

theorem excess_nonneg (signedPoi : ℚ) (limit : Option ℚ) : 0 ≤ excess signedPoi limit := by
  cases limit with
  | none => exact le_rfl
  | some l => exact le_max_right _ _

theorem capAt_headroom (signedPoi : ℚ) (limit : Option ℚ) :
    capAt (headroom signedPoi limit) 0 = -excess signedPoi limit := by
  cases limit with
  | none => simp [excess]
  | some l =>
      have mirrored := max_neg_neg (signedPoi + l) 0
      rw [neg_zero] at mirrored
      rw [headroom_some, capAt_coe, excess, mirrored, neg_neg]

theorem jump_eq (signedPoi : ℚ) (now prev : Option ℚ) :
    jump signedPoi ⟨now, prev⟩ (headroom signedPoi now) =
      max (excess signedPoi now - excess signedPoi prev) 0 := by
  simp only [jump, capAt_headroom]
  congr 1
  ring

theorem jump_pos_iff (signedPoi : ℚ) (now prev : Option ℚ) :
    0 < jump signedPoi ⟨now, prev⟩ (headroom signedPoi now) ↔
      Limit.Tightens ⟨now, prev⟩ signedPoi := by
  simp [jump_eq, Limit.Tightens]

theorem measured_of_excess {signedPoi limit : ℚ} (prev : Option ℚ)
    (past : signedPoi + limit < 0) :
    signedPoi + limit + jump signedPoi ⟨some limit, prev⟩ (headroom signedPoi (some limit)) =
      -min (excess signedPoi (some limit)) (excess signedPoi prev) := by
  have now : excess signedPoi (some limit) = -(signedPoi + limit) := max_eq_left (by linarith)
  rw [jump_eq, now]
  rcases le_total (excess signedPoi prev) (-(signedPoi + limit)) with below | above
  · rw [max_eq_left (by linarith), min_eq_right below]
    ring
  · rw [max_eq_right (by linarith), min_eq_left above]
    ring

theorem neg_cut_le_step (signedPoi : ℚ) (limit : Limit) (opposite : WithTop ℚ) (dt : Duration) :
    ((-limit.cut signedPoi opposite (Duration.asSecs dt) : ℚ) : WithTop ℚ) ≤
      step signedPoi limit (headroom signedPoi limit.now) opposite dt := by
  obtain ⟨now, prev⟩ := limit
  have seconds := Duration.asSecs_nonneg dt
  have standing : 0 ≤ min (excess signedPoi now) (excess signedPoi prev) :=
    le_min (excess_nonneg _ _) (excess_nonneg _ _)
  have backedOff := mul_nonneg (backOffRate_nonneg standing opposite) seconds
  cases now with
  | none => exact le_top
  | some l =>
      rw [step_some, WithTop.coe_le_coe]
      rcases lt_or_ge (signedPoi + l) 0 with past | inside
      · rw [measured_of_excess prev past, neg_neg, jump_eq, Limit.cut]
        split
        · rename_i none
          have rate : 0 ≤ approachGainPerSec *
              -min (excess signedPoi (some l)) (excess signedPoi prev) *
                Duration.asSecs dt :=
            mul_nonneg (mul_nonneg (by norm_num [approachGainPerSec]) none) seconds
          linarith
        · linarith
      · have unexceeded : excess signedPoi (some l) = 0 := max_eq_right (by linarith)
        have noJump : jump signedPoi ⟨some l, prev⟩ (headroom signedPoi (some l)) = 0 := by
          rw [jump_eq, unexceeded]
          exact max_eq_right (by linarith [excess_nonneg signedPoi prev])
        have rate : 0 ≤ approachGainPerSec * (signedPoi + l) * Duration.asSecs dt :=
          mul_nonneg (mul_nonneg (by norm_num [approachGainPerSec]) inside) seconds
        rw [noJump, add_zero, if_pos inside, Limit.cut]
        have taken := le_max_right (excess signedPoi (some l) - excess signedPoi prev) 0
        linarith

theorem step_nonpos_of_tightens {signedPoi : ℚ} {limit : Limit} (opposite : WithTop ℚ)
    (dt : Duration) (tightens : limit.Tightens signedPoi) :
    ∃ down : ℚ, step signedPoi limit (headroom signedPoi limit.now) opposite dt = down ∧
      down ≤ 0 := by
  obtain ⟨now, prev⟩ := limit
  have seconds := Duration.asSecs_nonneg dt
  have jumped := (jump_pos_iff signedPoi now prev).mpr tightens
  have standing : 0 ≤ min (excess signedPoi now) (excess signedPoi prev) :=
    le_min (excess_nonneg _ _) (excess_nonneg _ _)
  have backedOff := mul_nonneg (backOffRate_nonneg standing opposite) seconds
  cases now with
  | none => exact absurd tightens (not_lt.mpr (excess_nonneg _ _))
  | some l =>
      have past : signedPoi + l < 0 := by
        by_contra inside
        have unexceeded : excess signedPoi (some l) = 0 := max_eq_right (by linarith)
        exact absurd tightens (not_lt.mpr (unexceeded.trans_le (excess_nonneg _ _)))
      refine ⟨_, step_some signedPoi l prev opposite dt, ?_⟩
      rw [measured_of_excess prev past, neg_neg]
      split
      · rename_i none
        have spent : min (excess signedPoi (some l)) (excess signedPoi prev) = 0 :=
          le_antisymm (by linarith) standing
        rw [spent]
        linarith
      · linarith

/-! A tick whose limits are those of the tick before. -/

structure Unchanged (prevLimits : Option ℚ × Option ℚ) (t : EnvelopeTick) : Prop where
  memory : prevLimits = (t.importLimit, t.exportLimit)
  short : t.dt ≤ Duration.fromSecs 1

theorem Unchanged.asSecs_le_one {prevLimits : Option ℚ × Option ℚ} {t : EnvelopeTick}
    (unchanged : Unchanged prevLimits t) :
    Duration.asSecs (if t.poiFresh then t.dt else 0) ≤ 1 := by
  split
  · exact Duration.asSecs_le_one unchanged.short
  · simp

theorem forTick_ceiling_le (u : ℚ) {pPoi exported : ℚ} {prevLimits : Option ℚ × Option ℚ}
    {t : EnvelopeTick} (unchanged : Unchanged prevLimits t)
    (reading : t.poiActivePower = some pPoi) (limited : t.exportLimit = some exported)
    (room : 0 ≤ pPoi + exported) :
    (forTick u prevLimits t).ceiling ≤
      ((u + approachGainPerSec * (pPoi + exported) : ℚ) : WithTop ℚ) := by
  have seconds := unchanged.asSecs_le_one
  have gain : (0 : ℚ) ≤ approachGainPerSec * (pPoi + exported) :=
    mul_nonneg (by norm_num [approachGainPerSec]) room
  have servo : ∀ dt : Duration, Duration.asSecs dt ≤ 1 →
      (servoBounds u pPoi ⟨t.importLimit, prevLimits.1⟩ ⟨t.exportLimit, prevLimits.2⟩ dt).ceiling ≤
        ((u + approachGainPerSec * (pPoi + exported) : ℚ) : WithTop ℚ) := by
    intro dt bounded
    simp only [servoBounds, unchanged.memory, jump_unchanged, limited, step_unchanged, room,
      if_true, lt_irrefl, decide_false, Bool.false_and, uncross_ceiling]
    rw [← WithTop.coe_add, WithTop.coe_le_coe]
    have := mul_le_mul_of_nonneg_left bounded gain
    linarith
  simp only [forTick, reading]
  split
  · exact (holdApproach_ceiling_le _ _).trans (servo _ seconds)
  · exact servo _ seconds

theorem le_forTick (u : ℚ) {pPoi imported : ℚ} {prevLimits : Option ℚ × Option ℚ}
    {t : EnvelopeTick} (unchanged : Unchanged prevLimits t) (reading : t.poiActivePower = some pPoi)
    (limited : t.importLimit = some imported) (room : 0 ≤ imported - pPoi)
    (band : ∀ exported ∈ t.exportLimit, 0 ≤ imported + exported) :
    ((u - approachGainPerSec * (imported - pPoi) : ℚ) : WithBot ℚ) ≤
        (forTick u prevLimits t).floor ∧
      ((u - approachGainPerSec * (imported - pPoi) : ℚ) : WithTop ℚ) ≤
        (forTick u prevLimits t).ceiling := by
  have seconds := unchanged.asSecs_le_one
  have gain : (0 : ℚ) ≤ approachGainPerSec * (imported - pPoi) :=
    mul_nonneg (by norm_num [approachGainPerSec]) room
  have servo : ∀ dt : Duration, Duration.asSecs dt ≤ 1 →
      ((u - approachGainPerSec * (imported - pPoi) : ℚ) : WithBot ℚ) ≤ (servoBounds u pPoi
          ⟨t.importLimit, prevLimits.1⟩ ⟨t.exportLimit, prevLimits.2⟩ dt).floor ∧
        ((u - approachGainPerSec * (imported - pPoi) : ℚ) : WithTop ℚ) ≤ (servoBounds u pPoi
          ⟨t.importLimit, prevLimits.1⟩ ⟨t.exportLimit, prevLimits.2⟩ dt).ceiling := by
    intro dt bounded
    have nonneg := Duration.asSecs_nonneg dt
    have spent := mul_le_mul_of_nonneg_left bounded gain
    have measured : 0 ≤ -pPoi + imported := by linarith
    simp only [servoBounds, unchanged.memory]
    apply le_uncross
    · simp only [limited, step_unchanged, measured, if_true, lowered_coe, WithBot.coe_le_coe]
      have same : -pPoi + imported = imported - pPoi := by ring
      rw [same]
      linarith
    · cases exportCase : t.exportLimit with
      | none => simp [step_none]
      | some exported =>
          have bandwidth := band exported exportCase
          rw [step_unchanged, limited, headroom_some, ← WithTop.coe_add, WithTop.coe_le_coe]
          split
          · rename_i exportRoom
            have up : 0 ≤ approachGainPerSec * (pPoi + exported) * Duration.asSecs dt :=
              mul_nonneg (mul_nonneg (by norm_num [approachGainPerSec]) exportRoom) nonneg
            linarith
          · have back := backOffRate_le
              (show -(pPoi + exported) ≤ -pPoi + imported by linarith)
            have taken := mul_le_mul_of_nonneg_right back nonneg
            have same : approachGainPerSec * (-pPoi + imported) =
                approachGainPerSec * (imported - pPoi) := by ring
            rw [same] at taken
            linarith
  simp only [forTick, reading]
  split
  · exact le_holdApproach (by linarith) (servo _ seconds).1 (servo _ seconds).2
  · exact servo _ seconds

namespace EnvelopeController

/-- The servo's bounds at a tick: a reading that was used before, or that the jump hold skips,
is given no time. -/
def servoAt (c : EnvelopeController) (input : EnvelopeTick) (pPoi : ℚ) : Bounds :=
  servoBounds c.currentOutput pPoi ⟨input.importLimit, c.prevLimits.1⟩
    ⟨input.exportLimit, c.prevLimits.2⟩
    (if input.poiFresh ∧ c.jumpHold = 0 then input.dt else 0)

theorem tickBounds_poi {c : EnvelopeController} {input : EnvelopeTick} {pPoi : ℚ}
    (reading : input.poiActivePower = some pPoi) :
    c.tickBounds input =
      if input.holdApproach then Envelope.holdApproach c.currentOutput (c.servoAt input pPoi)
      else c.servoAt input pPoi := by
  by_cases skipped : c.skipsReading input = true
  · have facts : 0 < c.jumpHold ∧ input.poiFresh = true := by
      simpa [skipsReading] using skipped
    simp [tickBounds, skipped, forTick, reading, servoAt, facts.1.ne']
  · have read : input.poiFresh = true → c.jumpHold = 0 := by
      intro fresh
      simpa [skipsReading, fresh] using skipped
    by_cases fresh : input.poiFresh = true
    · simp [tickBounds, skipped, forTick, reading, servoAt, fresh, read fresh]
    · simp [tickBounds, skipped, forTick, reading, servoAt, fresh]

end EnvelopeController

end EmsGateway.Envelope
