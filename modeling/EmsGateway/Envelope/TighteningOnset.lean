import EmsGateway.Envelope.MeterLag

/-!
A tightened import limit is taken off once. The jump moves the floor by exactly the violation
the tightening created; the readings that still show it are skipped by the jump hold, so none
of them is integrated, and once the hold is over every reading the meter can give shows the
output that is already there. Only a step below `f64::EPSILON` is not written.
-/

namespace EmsGateway.Envelope

open EmsGateway.Library

namespace EnvelopeController

theorem tickBounds_metered {c : EnvelopeController} {input : EnvelopeTick} {pPoi : ℚ}
    (reading : input.poiActivePower = some pPoi) (approaching : input.holdApproach = false) :
    c.tickBounds input = servoBounds c.currentOutput pPoi ⟨input.importLimit, c.prevLimits.1⟩
      ⟨input.exportLimit, c.prevLimits.2⟩
      (if input.poiFresh ∧ c.jumpHold = 0 then input.dt else 0) := by
  rw [tickBounds_poi reading, approaching]
  rfl

structure TakesOff (c : EnvelopeController) (input : EnvelopeTick) (pPoi imported gap : ℚ) :
    Prop where
  reading : input.poiActivePower = some pPoi
  limited : input.importLimit = some imported
  approaching : input.holdApproach = false
  export_same : c.prevLimits.2 = input.exportLimit
  export_room : ∀ exported ∈ input.exportLimit, 0 ≤ pPoi + exported
  violated : imported ≤ pPoi
  jump_eq : jump (-pPoi) ⟨some imported, c.prevLimits.1⟩ (headroom (-pPoi) (some imported)) = gap
  covered : input.poiFresh = true → c.jumpHold = 0 → -pPoi + imported + gap = 0
  min_le : input.powerMin ≤ c.currentOutput + gap
  le_max : c.currentOutput + gap ≤ input.powerMax
  request_le : input.requestedSetpoint ≤ c.currentOutput + gap

section TakesOff

variable {c : EnvelopeController} {input : EnvelopeTick} {pPoi imported gap : ℚ}

theorem TakesOff.gap_nonneg (takes : TakesOff c input pPoi imported gap) : 0 ≤ gap := by
  rw [← takes.jump_eq]
  exact le_max_right _ _

theorem TakesOff.down_eq (takes : TakesOff c input pPoi imported gap) (opposite : WithTop ℚ) :
    EmsGateway.Envelope.step (-pPoi) ⟨some imported, c.prevLimits.1⟩
      (headroom (-pPoi) (some imported)) opposite
      (if input.poiFresh ∧ c.jumpHold = 0 then input.dt else 0) = ((-gap : ℚ) : WithTop ℚ) := by
  rw [step_some, takes.jump_eq]
  congr 1
  by_cases integrates : input.poiFresh = true ∧ c.jumpHold = 0
  · have covered := takes.covered integrates.1 integrates.2
    simp [covered]
  · simp [integrates]

theorem TakesOff.up_nonneg (takes : TakesOff c input pPoi imported gap) (opposite : WithTop ℚ)
    (dt : Duration) :
    0 ≤ EmsGateway.Envelope.step pPoi ⟨input.exportLimit, c.prevLimits.2⟩
      (headroom pPoi input.exportLimit) opposite dt := by
  rw [takes.export_same]
  cases exportCase : input.exportLimit with
  | none => exact le_top
  | some exported =>
      have room := takes.export_room exported exportCase
      rw [step_unchanged, if_pos room]
      have gain : (0 : ℚ) ≤ approachGainPerSec := by norm_num [approachGainPerSec]
      exact WithTop.coe_le_coe.mpr
        (mul_nonneg (mul_nonneg gain room) (Duration.asSecs_nonneg dt))

theorem TakesOff.bounds (takes : TakesOff c input pPoi imported gap) :
    (c.tickBounds input).floor = ((c.currentOutput + gap : ℚ) : WithBot ℚ) ∧
      ((c.currentOutput + gap : ℚ) : WithTop ℚ) ≤ (c.tickBounds input).ceiling ∧
      (c.tickBounds input).jumped = decide (0 < gap) := by
  have exportJump : jump pPoi ⟨input.exportLimit, c.prevLimits.2⟩
      (headroom pPoi input.exportLimit) = 0 := by
    rw [takes.export_same]
    exact jump_unchanged pPoi input.exportLimit
  have floorEq : c.currentOutput - -gap = c.currentOutput + gap := by ring
  rw [tickBounds_metered takes.reading takes.approaching]
  simp only [servoBounds, takes.limited, takes.down_eq, takes.jump_eq, exportJump, lt_irrefl,
    decide_false, Bool.not_false, Bool.and_true, Bool.false_or, lowered_coe, floorEq]
  have up := takes.up_nonneg (headroom (-pPoi) (some imported))
    (if input.poiFresh ∧ c.jumpHold = 0 then input.dt else 0)
  generalize EmsGateway.Envelope.step pPoi ⟨input.exportLimit, c.prevLimits.2⟩
    (headroom pPoi input.exportLimit) (headroom (-pPoi) (some imported))
    (if input.poiFresh ∧ c.jumpHold = 0 then input.dt else 0) = rise at up
  induction rise with
  | top => simp [uncross]
  | coe rise =>
      have riseNonneg : 0 ≤ rise := WithTop.coe_nonneg.mp up
      rw [← WithTop.coe_add]
      simp only [uncross]
      by_cases crossed : c.currentOutput + rise < c.currentOutput + gap
      · have positive : 0 < gap := by linarith
        simp [crossed, positive]
      · simp only [crossed, if_false, and_true, true_and]
        exact WithTop.coe_le_coe.mpr (not_lt.mp crossed)

theorem TakesOff.target_eq (takes : TakesOff c input pPoi imported gap) :
    c.target input = c.currentOutput + gap := by
  obtain ⟨floorEq, ceilingLe, _⟩ := takes.bounds
  have ceilingBound : c.currentOutput + gap ≤ c.ceiling input :=
    (le_capAt_iff _ _ _).mpr ⟨ceilingLe, takes.le_max⟩
  have floorValue : c.floor input = c.currentOutput + gap := by
    unfold floor
    rw [floorEq, raiseTo_coe, max_eq_left takes.min_le, min_eq_left ceilingBound]
  unfold target
  rw [clampTo_of_le_low (c.floor_le_ceiling input)]
  · exact floorValue
  · rw [floorValue]
    exact takes.request_le

theorem TakesOff.output_eq (takes : TakesOff c input pPoi imported gap)
    (written : gap = 0 ∨ epsilon ≤ gap) :
    (c.advance input).currentOutput = c.currentOutput + gap := by
  have importHeadroom : (c.tickBounds input).headroomImport ≤ 0 := by
    rw [tickBounds_metered takes.reading takes.approaching]
    simp only [servoBounds, takes.limited, headroom_some]
    have nonpos : -pPoi + imported ≤ 0 := by linarith [takes.violated]
    exact_mod_cast nonpos
  unfold advance
  simp only [tick, importHeadroom, or_true, if_true, takes.target_eq]
  rcases written with none | change
  · subst none
    rcases write_output { c.remember input with mode := .constrained, dwellElapsed := 0 }
      (c.currentOutput + 0) with same | same
    · exact same
    · rw [same.1, add_zero]
      rfl
  · apply write_output_of_change
    have moved : c.currentOutput + gap - c.currentOutput = gap := by ring
    change epsilon ≤ |c.currentOutput + gap - c.currentOutput|
    rw [moved]
    exact change.trans (le_abs_self gap)

end TakesOff

theorem TakesOff.jumpHold_eq {c : EnvelopeController} {input : EnvelopeTick}
    {pPoi imported gap : ℚ} (takes : TakesOff c input pPoi imported gap) :
    (c.advance input).jumpHold =
      if 0 < gap then jumpHoldReadings
      else if c.skipsReading input then c.jumpHold - 1 else c.jumpHold := by
  unfold advance
  rw [tick_jumpHold]
  simp only [remember, takes.bounds.2.2, decide_eq_true_eq]

end EnvelopeController

structure OnsetTick (load : ℚ) (exportLimit : Option ℚ) (imported : ℚ) (input : LoopInput) :
    Prop where
  import_eq : input.tick.importLimit = some imported
  export_eq : input.tick.exportLimit = exportLimit
  approaching : input.tick.holdApproach = false
  min_le : input.tick.powerMin ≤ load - imported
  le_max : load - imported ≤ input.tick.powerMax
  request_le : input.tick.requestedSetpoint ≤ load - imported
  lag_le : input.lag ≤ 3

/-- A settled controller within its previous limits, and an import limit that tightens past
the present flow and never loosens again. -/
structure TighteningRun (load : ℚ) (exportLimit : Option ℚ) (limits : ℕ → ℚ) (start : Loop)
    (inputs : ℕ → LoopInput) : Prop where
  settled : start.Settled
  jumpHold_zero : start.controller.jumpHold = 0
  export_memory : start.controller.prevLimits.2 = exportLimit
  import_kept : ∀ imported ∈ start.controller.prevLimits.1, load - start.output ≤ imported
  export_kept : ∀ exported ∈ exportLimit, 0 ≤ load - start.output + exported
  band : ∀ exported ∈ exportLimit, ∀ k, 0 ≤ limits k + exported
  onset : limits 0 < load - start.output
  tightens : ∀ k, limits (k + 1) ≤ limits k
  ticks : ∀ k, OnsetTick load exportLimit (limits k) (inputs k)

/-- The loop after a tick of the onset: its output covers the load down to the limit, and the
readings the jump hold no longer skips all show that output. -/
structure Covers (load : ℚ) (exportLimit : Option ℚ) (imported : ℚ) (loop : Loop) : Prop where
  output_eq : loop.output = load - imported
  memory : loop.controller.prevLimits = (some imported, exportLimit)
  older : ∀ age ≤ 3, loop.delivered age ≤ loop.output
  shown : ∀ age, age + loop.controller.jumpHold ≤ 3 → loop.delivered age = loop.output

section Onset

variable {load : ℚ} {exportLimit : Option ℚ} {limits : ℕ → ℚ} {start : Loop}
  {inputs : ℕ → LoopInput}

theorem covers_of_takesOff {loop : Loop} {input : LoopInput} {imported gap : ℚ}
    (tick : OnsetTick load exportLimit imported input)
    (takes : EnvelopeController.TakesOff loop.controller (loop.metered load input)
      (load - loop.delivered input.lag) imported gap)
    (written : gap = 0 ∨ epsilon ≤ gap) (lands : loop.output + gap = load - imported)
    (older : ∀ age ≤ 3, loop.delivered age ≤ loop.output)
    (shown : ∀ age, age + loop.controller.jumpHold ≤ 3 → loop.delivered age = loop.output) :
    Covers load exportLimit imported (loop.step load input) := by
  have output : (loop.step load input).output = loop.output + gap := takes.output_eq written
  have gapNonneg := takes.gap_nonneg
  refine ⟨output.trans lands, ?_, ?_, ?_⟩
  · have remembered := EnvelopeController.tick_prevLimits loop.controller
      (loop.metered load input)
    rw [← tick.import_eq, ← tick.export_eq]
    exact remembered
  · intro age bound
    rw [output]
    cases age with
    | zero => exact output.le
    | succ age =>
        have earlier := older age (by omega)
        change loop.delivered age ≤ loop.output + gap
        linarith
  · intro age bound
    have hold : (loop.step load input).controller.jumpHold = _ := takes.jumpHold_eq
    rw [hold] at bound
    cases age with
    | zero => rfl
    | succ age =>
        -- a jump fills the hold, so only a tick without one shows older readings
        by_cases jumped : 0 < gap
        · simp [jumped, jumpHoldReadings] at bound
        · have still : gap = 0 := le_antisymm (not_lt.mp jumped) gapNonneg
          rw [output, still, add_zero]
          change loop.delivered age = loop.output
          apply shown
          simp only [jumped, if_false] at bound
          split at bound <;> omega

theorem TighteningRun.first (run : TighteningRun load exportLimit limits start inputs)
    (written : epsilon ≤ load - start.output - limits 0) :
    Covers load exportLimit (limits 0) (start.step load (inputs 0)) := by
  have tick := run.ticks 0
  have reading : start.delivered (inputs 0).lag = start.output := run.settled _ tick.lag_le
  have before : capAt (headroom (-(load - start.output)) start.controller.prevLimits.1) 0 = 0 := by
    cases memory : start.controller.prevLimits.1 with
    | none => rfl
    | some imported =>
        have kept := run.import_kept imported memory
        exact min_eq_right (by linarith)
  have lands : start.output + (load - start.output - limits 0) = load - limits 0 := by ring
  refine covers_of_takesOff tick ?_ (Or.inr written) lands
    (fun age bound => (run.settled age bound).le) (fun age bound => run.settled age (by omega))
  rw [reading]
  refine ⟨congrArg (fun delivered => some (load - delivered)) reading, tick.import_eq,
    tick.approaching, ?_, ?_, run.onset.le, ?_, ?_, ?_, ?_, ?_⟩
  · exact run.export_memory.trans tick.export_eq.symm
  · intro exported limited
    exact run.export_kept exported (tick.export_eq ▸ limited)
  · have violated : -(load - start.output) + limits 0 ≤ 0 := by linarith [run.onset]
    simp only [jump, before, headroom_some, capAt_coe, min_eq_left violated]
    rw [max_eq_left (by linarith)]
    ring
  · intro _ _
    ring
  · exact tick.min_le.trans_eq lands.symm
  · exact lands.le.trans tick.le_max
  · exact tick.request_le.trans_eq lands.symm

theorem TighteningRun.next (run : TighteningRun load exportLimit limits start inputs) {k : ℕ}
    {loop : Loop} (covers : Covers load exportLimit (limits k) loop)
    (written : limits (k + 1) = limits k ∨ epsilon ≤ limits k - limits (k + 1)) :
    Covers load exportLimit (limits (k + 1)) (loop.step load (inputs (k + 1))) := by
  have tick := run.ticks (k + 1)
  have tightens := run.tightens k
  have older := covers.older _ tick.lag_le
  have output := covers.output_eq
  have lands : loop.output + (limits k - limits (k + 1)) = load - limits (k + 1) := by
    rw [output]
    ring
  refine covers_of_takesOff tick ?_ (written.imp_left fun same => by linarith) lands
    covers.older covers.shown
  refine ⟨rfl, tick.import_eq, tick.approaching, ?_, ?_, by linarith, ?_, ?_, ?_, ?_, ?_⟩
  · rw [covers.memory]
    exact tick.export_eq.symm
  · intro exported limited
    have bandwidth := run.band exported (tick.export_eq ▸ limited) (k + 1)
    linarith
  · -- the reading shows a flow at or above both limits, so the jump is their difference
    have previous : -(load - loop.delivered (inputs (k + 1)).lag) + limits k ≤ 0 := by linarith
    have present : -(load - loop.delivered (inputs (k + 1)).lag) + limits (k + 1) ≤ 0 := by
      linarith
    simp only [jump, covers.memory, headroom_some, capAt_coe, min_eq_left previous,
      min_eq_left present]
    rw [max_eq_left (by linarith)]
    ring
  · intro _ idle
    have reading := covers.shown (inputs (k + 1)).lag (by rw [idle]; exact tick.lag_le)
    rw [reading, output]
    ring
  · exact tick.min_le.trans_eq lands.symm
  · exact lands.le.trans tick.le_max
  · exact tick.request_le.trans_eq lands.symm

end Onset

/-- From its onset on, a tightened import limit is covered exactly after every tick, whatever
the meter shows, as long as no step of the tightening is below `f64::EPSILON`. -/
theorem tightening_taken_off_once {load : ℚ} {exportLimit : Option ℚ} {limits : ℕ → ℚ}
    {start : Loop} {inputs : ℕ → LoopInput}
    (run : TighteningRun load exportLimit limits start inputs)
    (first : epsilon ≤ load - start.output - limits 0)
    (later : ∀ k, limits (k + 1) = limits k ∨ epsilon ≤ limits k - limits (k + 1)) :
    ∀ k, (start.after load inputs (k + 1)).output = load - limits k := by
  have covers : ∀ k, Covers load exportLimit (limits k) (start.after load inputs (k + 1)) := by
    intro k
    induction k with
    | zero => exact run.first first
    | succ k ih => exact run.next ih (later k)
  intro k
  exact (covers k).output_eq

def coveredStart : Loop :=
  { controller := { EnvelopeController.new EnvelopeController.plainConfig 0 with
      prevLimits := (some 101, some 0) }
    delivered := fun _ => 0 }

def onsetInput (imported : ℚ) : LoopInput :=
  { tick := { lateReading.tick with
      importLimit := some imported, requestedSetpoint := 0 }
    lag := 2 }

def twoTightenings (k : ℕ) : ℚ := if k < 2 then 60 else 40

theorem tightening_to_sixty_then_forty :
    TighteningRun 100 (some 0) twoTightenings coveredStart
        (fun k => onsetInput (twoTightenings k)) ∧
      ∀ k, (coveredStart.after 100 (fun k => onsetInput (twoTightenings k)) (k + 1)).output =
        100 - twoTightenings k := by
  have cases : ∀ k, twoTightenings k = 60 ∨ twoTightenings k = 40 := by
    intro k
    unfold twoTightenings
    split <;> simp
  have steps : ∀ k, twoTightenings (k + 1) = twoTightenings k ∨
      twoTightenings (k + 1) + 20 = twoTightenings k := by
    intro k
    unfold twoTightenings
    split <;> split <;> first | omega | norm_num
  have run : TighteningRun 100 (some 0) twoTightenings coveredStart
      (fun k => onsetInput (twoTightenings k)) := by
    refine ⟨fun _ _ => rfl, rfl, rfl, by decide +kernel, by decide +kernel, ?_, by decide +kernel,
      ?_, ?_⟩
    · intro exported limited k
      obtain rfl : 0 = exported := Option.some.inj limited
      rcases cases k with value | value <;> norm_num [value]
    · intro k
      rcases steps k with same | less <;> linarith
    · intro k
      refine ⟨rfl, rfl, rfl, ?_, ?_, ?_, by norm_num [onsetInput]⟩ <;>
        rcases cases k with value | value <;>
        norm_num [value, onsetInput, lateReading]
  refine ⟨run, tightening_taken_off_once run (by decide +kernel) ?_⟩
  intro k
  rcases steps k with same | less
  · exact Or.inl same
  · have drop : twoTightenings k - twoTightenings (k + 1) = 20 := by linarith
    rw [drop]
    exact Or.inr (by decide +kernel)

/-- A load of 2⁻⁶⁰ W above a zero import limit is a violation, but not a change `write`
makes. -/
theorem tightening_below_epsilon_not_taken_off :
    TighteningRun (1 / 2 ^ 60) (some 0) (fun _ => 0) coveredStart (fun _ => onsetInput 0) ∧
      (coveredStart.after (1 / 2 ^ 60) (fun _ => onsetInput 0) 1).output ≠ 1 / 2 ^ 60 - 0 := by
  constructor
  · refine ⟨fun _ _ => rfl, rfl, rfl, by decide +kernel, by decide +kernel, ?_, by decide +kernel,
      fun _ => le_rfl, ?_⟩
    · intro exported limited _
      obtain rfl : 0 = exported := Option.some.inj limited
      norm_num
    · intro k
      refine ⟨rfl, rfl, rfl, ?_, ?_, ?_, ?_⟩ <;> norm_num [onsetInput, lateReading]
  · decide +kernel

end EmsGateway.Envelope
