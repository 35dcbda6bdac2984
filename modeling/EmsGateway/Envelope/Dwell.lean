import EmsGateway.Envelope.ControlLawSafety
import EmsGateway.Library.History

/-!
How a constrained event closes. One counter measures the dwell for both directions, and each tick
asks for the margin on the side the ramp would move toward just then. So the counter vouches for
the side of the closing tick only where the direction did not turn while it was counting.
-/

namespace EmsGateway.Envelope

open EmsGateway.Library

namespace EnvelopeController

@[simp] theorem write_mode (c : EnvelopeController) (value : ℚ) :
    (c.write value).1.mode = c.mode := by
  unfold write
  split <;> rfl

@[simp] theorem write_dwellElapsed (c : EnvelopeController) (value : ℚ) :
    (c.write value).1.dwellElapsed = c.dwellElapsed := by
  unfold write
  split <;> rfl

theorem ramp_mode (c : EnvelopeController) (input : EnvelopeTick) (target : ℚ) :
    (c.ramp input target).1.mode ≠ .constrained := by
  simp only [ramp]
  split <;> simp

def Violated (input : EnvelopeTick) : Prop := exportRoom input ≤ 0 ∨ importRoom input ≤ 0

instance (input : EnvelopeTick) : Decidable (Violated input) :=
  inferInstanceAs (Decidable (_ ∨ _))

/-- The ramp would move toward the export limit; a target equal to the output counts as such. -/
def towardExport (c : EnvelopeController) (input : EnvelopeTick) : Bool :=
  !decide (c.target input < c.currentOutput)

/-- The margin that closes an event on one side, with neither limit used up. -/
def MarginHeld (config : EnvelopeConfig) (onExport : Bool) (input : EnvelopeTick) : Prop :=
  ¬Violated input ∧
    if onExport then
      ((config.hysteresisMargin * input.powerMax : ℚ) : WithTop ℚ) ≤ exportRoom input
    else ((config.hysteresisMargin * |input.powerMin| : ℚ) : WithTop ℚ) ≤ importRoom input

/-- The event closes at this tick and the ramp starts. -/
def Closes (c : EnvelopeController) (input : EnvelopeTick) : Prop :=
  c.mode = .constrained ∧ (c.advance input).mode ≠ .constrained

instance (c : EnvelopeController) (input : EnvelopeTick) : Decidable (c.Closes input) :=
  inferInstanceAs (Decidable (_ ∧ _))

section Tick

variable {c : EnvelopeController} {input : EnvelopeTick}

theorem marginHeld_of_clear (unviolated : ¬Violated input) (clear : c.clear input = true) :
    MarginHeld c.config (c.towardExport input) input := by
  refine ⟨unviolated, ?_⟩
  simp only [EnvelopeController.clear, tickBounds_headrooms] at clear
  unfold towardExport
  split at clear
  · rename_i down
    simpa [down] using clear
  · rename_i up
    simpa [up] using clear

theorem violated_iff :
    (c.tickBounds input).headroomExport ≤ 0 ∨ (c.tickBounds input).headroomImport ≤ 0 ↔
      Violated input := by
  rw [(c.tickBounds_headrooms input).1, (c.tickBounds_headrooms input).2]
  exact Iff.rfl

/-- A counter above zero was counted up at this tick. -/
theorem dwell_of_counting (held : (c.advance input).mode = .constrained)
    (counting : 0 < (c.advance input).dwellElapsed) :
    c.mode = .constrained ∧ ¬Violated input ∧ c.clear input = true ∧
      (c.advance input).dwellElapsed = c.dwellElapsed + input.dt := by
  simp only [advance, tick, violated_iff] at held counting ⊢
  split at held
  · rename_i violated
    simp [violated] at counting
  · rename_i unviolated
    simp only [unviolated, if_false] at counting ⊢
    split at held
    · rename_i normal
      simp [remember, normal] at held
    · exact absurd held (ramp_mode _ _ _)
    · rename_i constrained
      simp only [constrained] at counting ⊢
      split at held
      · rename_i clear
        simp only [clear, if_true] at counting ⊢
        split at held
        · exact absurd held (ramp_mode _ _ _)
        · rename_i short
          rw [if_neg short]
          simp [remember]
      · rename_i unclear
        simp [unclear] at counting

theorem dwell_of_closes (closes : c.Closes input) :
    ¬Violated input ∧ c.clear input = true ∧
      c.config.hysteresisDwell ≤ c.dwellElapsed + input.dt := by
  obtain ⟨constrained, left⟩ := closes
  simp only [advance, tick, violated_iff, constrained] at left
  split at left
  · simp at left
  · rename_i unviolated
    split at left
    · rename_i clear
      split at left
      · rename_i long
        exact ⟨unviolated, clear, long⟩
      · simp [remember, constrained] at left
    · simp [remember, constrained] at left

end Tick

abbrev Moment := EnvelopeController × EnvelopeTick

/-- A tick that adds to time already counted moves the same way as the tick before it. -/
def KeepsSide (before after : Moment) : Prop :=
  after.1.mode = .constrained → 0 < after.1.dwellElapsed → ¬Violated after.2 →
    after.1.clear after.2 = true →
      after.1.towardExport after.2 = before.1.towardExport before.2

/-- The counter vouches for the side of the tick that counted last. -/
def DwellCounted (config : EnvelopeConfig) (past : List Moment) (c : EnvelopeController) : Prop :=
  c.config = config ∧ (c.mode = .constrained → 0 < c.dwellElapsed →
    ∃ latest ∈ past.getLast?,
      Sustained (fun moment : Moment => MarginHeld config (latest.1.towardExport latest.2) moment.2)
        (fun moment => moment.2.dt) past c.dwellElapsed)

theorem DwellCounted.sustained {config : EnvelopeConfig} {past : List Moment}
    {c : EnvelopeController} {input : EnvelopeTick}
    (steady : (past ++ [(c, input)]).IsChain KeepsSide) (counted : DwellCounted config past c)
    (constrained : c.mode = .constrained) (unviolated : ¬Violated input)
    (clear : c.clear input = true) :
    SustainedTo (fun moment : Moment => MarginHeld config (c.towardExport input) moment.2)
      (fun moment => moment.2.dt) past (c, input) (c.dwellElapsed + input.dt) := by
  have now : MarginHeld config (c.towardExport input) input := by
    rw [← counted.1]
    exact marginHeld_of_clear unviolated clear
  rcases Nat.eq_zero_or_pos c.dwellElapsed with fresh | counting
  · rw [fresh]
    exact (Sustained.zero _ _ past).upTo now
  · obtain ⟨latest, found, lasted⟩ := counted.2 constrained counting
    have kept : KeepsSide latest (c, input) :=
      (List.isChain_append.mp steady).2.2 latest found (c, input) (by simp)
    rw [← kept constrained counting unviolated clear] at lasted
    exact lasted.upTo now

theorem DwellCounted.step {config : EnvelopeConfig} {past : List Moment} {c : EnvelopeController}
    {input : EnvelopeTick} (steady : (past ++ [(c, input)]).IsChain KeepsSide)
    (counted : DwellCounted config past c) :
    DwellCounted config (past ++ [(c, input)]) (c.advance input) := by
  refine ⟨(tick_config c input).trans counted.1, ?_⟩
  intro held counting
  obtain ⟨constrained, unviolated, clear, elapsed⟩ := dwell_of_counting held counting
  refine ⟨(c, input), by simp, ?_⟩
  rw [elapsed]
  exact (counted.sustained steady constrained unviolated clear).sustained

/-- In a run whose direction never turns within a dwell, an event closes only after the margin of
the side it then moves toward was there for the whole dwell. -/
theorem closes_on_sustained_margin (config : EnvelopeConfig) (initialOutput : ℚ)
    {ticks : List EnvelopeTick} {last : EnvelopeTick}
    (steady : (history advance (new config initialOutput) (ticks ++ [last])).IsChain KeepsSide)
    (closes : (run advance (new config initialOutput) ticks).Closes last) :
    ((run advance (new config initialOutput) ticks).currentOutput <
        (run advance (new config initialOutput) ticks).target last →
      SustainedTo (fun moment : Moment => MarginHeld config true moment.2)
        (fun moment => moment.2.dt) (history advance (new config initialOutput) ticks)
        (run advance (new config initialOutput) ticks, last) config.hysteresisDwell) ∧
    ((run advance (new config initialOutput) ticks).target last <
        (run advance (new config initialOutput) ticks).currentOutput →
      SustainedTo (fun moment : Moment => MarginHeld config false moment.2)
        (fun moment => moment.2.dt) (history advance (new config initialOutput) ticks)
        (run advance (new config initialOutput) ticks, last) config.hysteresisDwell) := by
  rw [history_concat] at steady
  have counted : DwellCounted config (history advance (new config initialOutput) ticks)
      (run advance (new config initialOutput) ticks) :=
    history_invariant (fun past moment chain => chain.left_of_append)
      (fun past now input chain counted => counted.step chain)
      ⟨rfl, fun constrained => by simp [new] at constrained⟩ steady.left_of_append
  obtain ⟨unviolated, clear, long⟩ := dwell_of_closes closes
  rw [counted.1] at long
  have lasted := (counted.sustained steady closes.1 unviolated clear).shorter long
  constructor
  · intro up
    have side : (run advance (new config initialOutput) ticks).towardExport last = true := by
      simp [towardExport, up.le]
    rwa [side] at lasted
  · intro down
    have side : (run advance (new config initialOutput) ticks).towardExport last = false := by
      simp [towardExport, down]
    rwa [side] at lasted

def atLimit : EnvelopeTick :=
  { importLimit := none
    exportLimit := some 50
    activePower := 50
    requestedSetpoint := 100
    poiActivePower := none
    poiFresh := true
    holdApproach := false
    powerMin := -100
    powerMax := 100
    dt := Duration.fromSecs 1 }

/-- The request is below the output, and the export limit has less than its margin. -/
def easingOff : EnvelopeTick :=
  { atLimit with activePower := 47, requestedSetpoint := 0, dt := Duration.fromSecs 20 }

def askingForMore : EnvelopeTick :=
  { atLimit with
    exportLimit := some 100, requestedSetpoint := 60, dt := Duration.fromSecs 10 }

/-- Twenty seconds of import margin and ten of export margin close the event toward export. -/
theorem closes_on_mixed_margins :
    (run advance (new plainConfig 50) [atLimit, easingOff]).Closes askingForMore ∧
      (run advance (new plainConfig 50) [atLimit, easingOff]).currentOutput <
        (run advance (new plainConfig 50) [atLimit, easingOff]).target askingForMore ∧
      ¬SustainedTo (fun moment : Moment => MarginHeld plainConfig true moment.2)
        (fun moment => moment.2.dt) (history advance (new plainConfig 50) [atLimit, easingOff])
        (run advance (new plainConfig 50) [atLimit, easingOff], askingForMore)
        plainConfig.hysteresisDwell := by
  refine ⟨by decide +kernel, by decide +kernel, ?_⟩
  intro lasted
  have lapse : ¬MarginHeld plainConfig true easingOff := by
    intro held
    exact absurd held.2 (by decide +kernel)
  have split : history advance (new plainConfig 50) [atLimit, easingOff] =
      [(new plainConfig 50, atLimit)] ++ [((new plainConfig 50).advance atLimit, easingOff)] := rfl
  rw [split] at lasted
  exact absurd (lasted.le_of_lapse lapse) (by decide)

theorem closes_on_sustained_margin_after_half_a_minute :
    SustainedTo (fun moment : Moment => MarginHeld plainConfig true moment.2)
      (fun moment => moment.2.dt) (history advance (new plainConfig 50) [atLimit])
      (run advance (new plainConfig 50) [atLimit],
        { askingForMore with dt := Duration.fromSecs 30 }) plainConfig.hysteresisDwell := by
  refine (@closes_on_sustained_margin plainConfig 50 [atLimit] _ ?_ ?_).1 ?_
  · refine List.isChain_pair.mpr ?_
    intro _ counting
    exact absurd counting (by decide +kernel)
  · decide +kernel
  · decide +kernel

end EnvelopeController

end EmsGateway.Envelope
