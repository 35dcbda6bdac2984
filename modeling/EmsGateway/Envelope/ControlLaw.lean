import EmsGateway.Envelope.ControlLawCore

/-!
What one tick of the envelope controller can do. Every branch of `tick` moves the output
along the segment from the present output to `target`, which lies between the tick's floor
and ceiling; the remaining lemmas say what a tick leaves in the other fields.
-/

namespace EmsGateway.Envelope

open EmsGateway.Library

namespace EnvelopeController

theorem write_output (c : EnvelopeController) (value : ℚ) :
    (c.write value).1.currentOutput = value ∨
      (c.write value).1.currentOutput = c.currentOutput ∧ |value - c.currentOutput| < epsilon := by
  unfold write
  split
  · rename_i small
    exact Or.inr ⟨rfl, small⟩
  · exact Or.inl rfl

theorem write_output_of_change {c : EnvelopeController} {value : ℚ}
    (change : epsilon ≤ |value - c.currentOutput|) :
    (c.write value).1.currentOutput = value := by
  rcases write_output c value with written | ⟨_, small⟩
  · exact written
  · exact absurd small (not_lt.mpr change)

@[simp] theorem write_config (c : EnvelopeController) (value : ℚ) :
    (c.write value).1.config = c.config := by
  unfold write
  split <;> rfl

@[simp] theorem write_prevLimits (c : EnvelopeController) (value : ℚ) :
    (c.write value).1.prevLimits = c.prevLimits := by
  unfold write
  split <;> rfl

@[simp] theorem write_jumpHold (c : EnvelopeController) (value : ℚ) :
    (c.write value).1.jumpHold = c.jumpHold := by
  unfold write
  split <;> rfl

@[simp] theorem ramp_config (c : EnvelopeController) (input : EnvelopeTick) (target : ℚ) :
    (c.ramp input target).1.config = c.config := by
  simp only [ramp]
  split <;> simp

@[simp] theorem ramp_prevLimits (c : EnvelopeController) (input : EnvelopeTick) (target : ℚ) :
    (c.ramp input target).1.prevLimits = c.prevLimits := by
  simp only [ramp]
  split <;> simp

@[simp] theorem ramp_jumpHold (c : EnvelopeController) (input : EnvelopeTick) (target : ℚ) :
    (c.ramp input target).1.jumpHold = c.jumpHold := by
  simp only [ramp]
  split <;> simp

theorem tick_cases (c : EnvelopeController) (input : EnvelopeTick) :
    ∃ next : EnvelopeController,
      next.currentOutput = c.currentOutput ∧ next.config = c.config ∧
      next.prevLimits = (input.importLimit, input.exportLimit) ∧
      next.jumpHold = (c.remember input).jumpHold ∧
      ((((c.tickBounds input).headroomExport ≤ 0 ∨ (c.tickBounds input).headroomImport ≤ 0 ∨
          c.mode = .normal) ∧ c.tick input = next.write (c.target input)) ∨
        (c.mode = .constrained ∧ c.tick input = (next, none)) ∨
        (c.mode ≠ .normal ∧ c.tick input = next.ramp input (c.target input))) := by
  simp only [tick]
  split
  · rename_i violated
    refine ⟨{ c.remember input with mode := .constrained, dwellElapsed := 0 },
      rfl, rfl, rfl, rfl, Or.inl ⟨?_, rfl⟩⟩
    exact violated.imp_right Or.inl
  · split
    · rename_i normal
      exact ⟨c.remember input, rfl, rfl, rfl, rfl, Or.inl ⟨Or.inr (Or.inr normal), rfl⟩⟩
    · rename_i ramping
      refine ⟨c.remember input, rfl, rfl, rfl, rfl, Or.inr (Or.inr ⟨?_, rfl⟩)⟩
      simp [ramping]
    · rename_i constrained
      split
      · split
        · refine ⟨{ c.remember input with
            dwellElapsed := (c.remember input).dwellElapsed + input.dt },
            rfl, rfl, rfl, rfl, Or.inr (Or.inr ⟨?_, rfl⟩)⟩
          simp [constrained]
        · exact ⟨{ c.remember input with
            dwellElapsed := (c.remember input).dwellElapsed + input.dt },
            rfl, rfl, rfl, rfl, Or.inr (Or.inl ⟨constrained, rfl⟩)⟩
      · exact ⟨{ c.remember input with dwellElapsed := 0 },
          rfl, rfl, rfl, rfl, Or.inr (Or.inl ⟨constrained, rfl⟩)⟩

theorem tick_config (c : EnvelopeController) (input : EnvelopeTick) :
    (c.tick input).1.config = c.config := by
  obtain ⟨next, _, config, _, _, written | held | ramped⟩ := c.tick_cases input
  · rw [written.2, write_config, config]
  · rw [held.2, config]
  · rw [ramped.2, ramp_config, config]

theorem tick_prevLimits (c : EnvelopeController) (input : EnvelopeTick) :
    (c.tick input).1.prevLimits = (input.importLimit, input.exportLimit) := by
  obtain ⟨next, _, _, limits, _, written | held | ramped⟩ := c.tick_cases input
  · rw [written.2, write_prevLimits, limits]
  · rw [held.2, limits]
  · rw [ramped.2, ramp_prevLimits, limits]

theorem tick_jumpHold (c : EnvelopeController) (input : EnvelopeTick) :
    (c.tick input).1.jumpHold = (c.remember input).jumpHold := by
  obtain ⟨next, _, _, _, hold, written | held | ramped⟩ := c.tick_cases input
  · rw [written.2, write_jumpHold, hold]
  · rw [held.2, hold]
  · rw [ramped.2, ramp_jumpHold, hold]

theorem tickBounds_eq (c : EnvelopeController) (input : EnvelopeTick) :
    ∃ fresh, c.tickBounds input =
      forTick c.currentOutput c.prevLimits { input with poiFresh := fresh } := by
  simp only [tickBounds]
  split
  · exact ⟨false, rfl⟩
  · exact ⟨input.poiFresh, rfl⟩

/-- The headrooms of a tick come from its readings and limits alone. -/
def exportRoom (input : EnvelopeTick) : WithTop ℚ :=
  headroom (input.poiActivePower.getD (-input.activePower)) input.exportLimit

def importRoom (input : EnvelopeTick) : WithTop ℚ :=
  headroom (-input.poiActivePower.getD (-input.activePower)) input.importLimit

theorem tickBounds_headrooms (c : EnvelopeController) (input : EnvelopeTick) :
    (c.tickBounds input).headroomExport = exportRoom input ∧
      (c.tickBounds input).headroomImport = importRoom input := by
  obtain ⟨fresh, same⟩ := c.tickBounds_eq input
  rw [same]
  unfold forTick exportRoom importRoom
  cases reading : input.poiActivePower with
  | none => simp
  | some pPoi =>
      by_cases held : input.holdApproach = true
      · by_cases discharging : 0 ≤ c.currentOutput
        · simp [held, holdApproach, discharging, servoBounds]
        · simp [held, holdApproach, discharging, servoBounds]
      · simp [held, servoBounds]

theorem ceiling_le_powerMax (c : EnvelopeController) (input : EnvelopeTick) :
    c.ceiling input ≤ input.powerMax := capAt_le _ _

theorem floor_le_ceiling (c : EnvelopeController) (input : EnvelopeTick) :
    c.floor input ≤ c.ceiling input := min_le_right _ _

theorem floor_le_target (c : EnvelopeController) (input : EnvelopeTick) :
    c.floor input ≤ c.target input := (clampTo_mem (c.floor_le_ceiling input)).1

theorem target_le_ceiling (c : EnvelopeController) (input : EnvelopeTick) :
    c.target input ≤ c.ceiling input := (clampTo_mem (c.floor_le_ceiling input)).2

def RampsForward (c : EnvelopeController) (input : EnvelopeTick) : Prop :=
  0 ≤ c.config.rampRatePerSec * input.powerMax ∧ 0 ≤ c.config.rampRatePerSec * |input.powerMin|

theorem maxStep_nonneg {c : EnvelopeController} {input : EnvelopeTick}
    (forward : c.RampsForward input) (delta : ℚ) : 0 ≤ c.maxStep input delta := by
  simp only [maxStep]
  apply mul_nonneg _ (Duration.asSecs_nonneg _)
  split
  · exact forward.1
  · exact forward.2

def Between (low middle high : ℚ) : Prop :=
  min low high ≤ middle ∧ middle ≤ max low high

theorem write_between (c : EnvelopeController) {value target : ℚ}
    (between : Between c.currentOutput value target) :
    Between c.currentOutput (c.write value).1.currentOutput target := by
  rcases write_output c value with written | ⟨kept, _⟩
  · rwa [written]
  · rw [kept]
    exact ⟨min_le_left _ _, le_max_left _ _⟩

theorem ramp_between {c : EnvelopeController} {input : EnvelopeTick}
    (forward : c.RampsForward input) (target : ℚ) :
    Between c.currentOutput (c.ramp input target).1.currentOutput target := by
  have nonneg := maxStep_nonneg forward (target - c.currentOutput)
  simp only [ramp]
  split
  · exact write_between { c with mode := .normal } ⟨min_le_right _ _, le_max_right _ _⟩
  · rename_i far
    rw [not_le] at far
    apply write_between { c with mode := .ramping }
    unfold signum
    split
    · rename_i upward
      rw [abs_of_nonneg upward] at far
      refine ⟨min_le_iff.mpr (Or.inl ?_), le_max_iff.mpr (Or.inr ?_)⟩ <;> linarith
    · rename_i downward
      rw [abs_of_neg (not_le.mp downward)] at far
      refine ⟨min_le_iff.mpr (Or.inr ?_), le_max_iff.mpr (Or.inl ?_)⟩ <;> linarith

theorem tick_between {c : EnvelopeController} {input : EnvelopeTick}
    (forward : c.RampsForward input) :
    Between c.currentOutput (c.tick input).1.currentOutput (c.target input) := by
  obtain ⟨next, output, config, _, _, written | held | ramped⟩ := c.tick_cases input
  · rw [written.2, ← output]
    exact write_between next ⟨min_le_right _ _, le_max_right _ _⟩
  · rw [held.2, output]
    exact ⟨min_le_left _ _, le_max_left _ _⟩
  · have nextForward : next.RampsForward input := by
      unfold RampsForward
      rwa [config]
    rw [ramped.2, ← output]
    exact ramp_between nextForward _

theorem tick_output_le {c : EnvelopeController} {input : EnvelopeTick} {high : ℚ}
    (forward : c.RampsForward input) (present : c.currentOutput ≤ high)
    (bound : c.ceiling input ≤ high) : (c.tick input).1.currentOutput ≤ high :=
  (tick_between forward).2.trans (max_le present ((c.target_le_ceiling input).trans bound))

theorem le_tick_output {c : EnvelopeController} {input : EnvelopeTick} {low : ℚ}
    (forward : c.RampsForward input) (present : low ≤ c.currentOutput)
    (bound : low ≤ c.floor input) : low ≤ (c.tick input).1.currentOutput :=
  (le_min present (bound.trans (c.floor_le_target input))).trans (tick_between forward).1

end EnvelopeController

end EmsGateway.Envelope
