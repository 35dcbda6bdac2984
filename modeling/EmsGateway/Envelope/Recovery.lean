import EmsGateway.Envelope.Dwell

/-!
The ramp after a constrained event. It heads for the request clamped to the tick's bounds and is
over as soon as it gets there; a bound that lifts later is then followed in one step. A recovery
whose ramp only ever ends on the request itself is ramped from its first tick to its last.
-/

namespace EmsGateway.Envelope

open EmsGateway.Library

namespace EnvelopeController

/-- The tick moves the output by no more than the ramp allows in the direction it moves. -/
def WithinRamp (c : EnvelopeController) (input : EnvelopeTick) : Prop :=
  |(c.advance input).currentOutput - c.currentOutput| ≤
    c.maxStep input ((c.advance input).currentOutput - c.currentOutput)

instance (c : EnvelopeController) (input : EnvelopeTick) : Decidable (c.WithinRamp input) :=
  inferInstanceAs (Decidable (_ ≤ _))

/-- The clamped request is more than a step away, or it is the request and the step to it is
written. -/
def RampsToRequest (c : EnvelopeController) (input : EnvelopeTick) : Prop :=
  c.maxStep input (c.target input - c.currentOutput) < |c.target input - c.currentOutput| ∨
    c.target input = input.requestedSetpoint ∧
      (input.requestedSetpoint = c.currentOutput ∨
        epsilon ≤ |input.requestedSetpoint - c.currentOutput|)

section Ramp

variable {c : EnvelopeController} {input : EnvelopeTick}

theorem maxStep_of_config {next : EnvelopeController} (config : next.config = c.config)
    (delta : ℚ) : next.maxStep input delta = c.maxStep input delta := by
  simp only [maxStep, config]

/-- A step of at most `longest`, as it is taken or left out by `write`. -/
theorem step_within {longest delta moved : ℚ} (forward : c.RampsForward input)
    (longestIs : longest = c.maxStep input delta) (nonneg : 0 ≤ longest)
    (taken : moved = 0 ∨ (moved = delta ∧ |delta| ≤ longest) ∨ moved = longest * signum delta) :
    |moved| ≤ c.maxStep input moved := by
  rcases taken with rfl | ⟨rfl, short⟩ | rfl
  · rw [abs_zero]
    exact maxStep_nonneg forward 0
  · rwa [← longestIs]
  · rcases nonneg.eq_or_lt with zero | positive
    · rw [← zero, zero_mul, abs_zero]
      exact maxStep_nonneg forward 0
    · unfold signum
      split
      · rename_i up
        have same : c.maxStep input longest = longest := by
          rw [longestIs]
          simp only [maxStep, up, if_true]
          rw [if_pos (by simpa [longestIs, maxStep, up] using nonneg)]
        rw [mul_one, abs_of_nonneg nonneg, same]
      · rename_i down
        have same : c.maxStep input (-longest) = longest := by
          have below : ¬0 ≤ -longest := by linarith
          simp only [maxStep, if_neg below]
          rw [longestIs]
          simp only [maxStep, if_neg down]
        rw [mul_neg_one, abs_neg, abs_of_nonneg nonneg, same]

/-- The ramp is over with a last short step, or takes a whole one and goes on. -/
theorem ramp_cases (c : EnvelopeController) (input : EnvelopeTick) (target : ℚ) :
    (|target - c.currentOutput| ≤ c.maxStep input (target - c.currentOutput) ∧
      ((c.ramp input target).1.currentOutput = target ∨
        (c.ramp input target).1.currentOutput = c.currentOutput ∧
          |target - c.currentOutput| < epsilon)) ∨
    ((c.ramp input target).1.mode = .ramping ∧
      ((c.ramp input target).1.currentOutput = c.currentOutput +
          c.maxStep input (target - c.currentOutput) * signum (target - c.currentOutput) ∨
        (c.ramp input target).1.currentOutput = c.currentOutput)) := by
  simp only [ramp]
  split
  · rename_i near
    exact .inl ⟨near, write_output { c with mode := .normal } target⟩
  · refine .inr ⟨write_mode _ _, ?_⟩
    rcases write_output { c with mode := .ramping } (c.currentOutput +
        c.maxStep input (target - c.currentOutput) * signum (target - c.currentOutput)) with
      taken | ⟨kept, _⟩
    · exact .inl taken
    · exact .inr kept

/-- A tick of the ramp: the one that closes the event, or a later one. -/
theorem advance_of_ramping (ramping : c.mode = .ramping ∨ c.Closes input)
    (unviolated : ¬Violated input) :
    ∃ next : EnvelopeController, next.currentOutput = c.currentOutput ∧ next.config = c.config ∧
      c.advance input = (next.ramp input (c.target input)).1 := by
  rcases ramping with ramping | closes
  · refine ⟨c.remember input, rfl, rfl, ?_⟩
    simp only [advance, tick, violated_iff, unviolated, if_false, ramping]
  · obtain ⟨_, clear, long⟩ := dwell_of_closes closes
    refine ⟨{ c.remember input with dwellElapsed := c.dwellElapsed + input.dt }, rfl, rfl, ?_⟩
    have long' : c.config.hysteresisDwell ≤ (c.remember input).dwellElapsed + input.dt := long
    simp only [advance, tick, violated_iff, unviolated, if_false, closes.1, clear, if_true,
      if_pos long']
    rfl

theorem ramping_tick (forward : c.RampsForward input)
    (ramping : c.mode = .ramping ∨ c.Closes input) (unviolated : ¬Violated input)
    (toRequest : c.RampsToRequest input) :
    c.WithinRamp input ∧ ((c.advance input).mode = .ramping ∨
      (c.advance input).currentOutput = input.requestedSetpoint) := by
  obtain ⟨next, output, config, ramped⟩ := advance_of_ramping ramping unviolated
  have longest : next.maxStep input = c.maxStep input := funext (maxStep_of_config config)
  have nonneg := maxStep_nonneg forward (c.target input - c.currentOutput)
  unfold WithinRamp
  rw [ramped]
  have cases := ramp_cases next input (c.target input)
  rw [output, longest] at cases
  rcases cases with ⟨near, reached⟩ | ⟨mode, taken⟩
  · rcases toRequest with further | ⟨request, written⟩
    · exact absurd near (not_le.mpr further)
    · rcases reached with reached | ⟨kept, small⟩
      · rw [reached]
        exact ⟨step_within forward rfl nonneg (.inr (.inl ⟨rfl, near⟩)), .inr request⟩
      · rcases written with there | change
        · rw [kept, sub_self, abs_zero]
          exact ⟨maxStep_nonneg forward 0, .inr there.symm⟩
        · rw [request] at small
          exact absurd small (not_lt.mpr change)
  · refine ⟨step_within forward rfl nonneg ?_, .inl mode⟩
    rcases taken with taken | kept
    · right
      right
      rw [taken, add_sub_cancel_left]
    · left
      rw [kept, sub_self]

end Ramp

/-- From the tick that closes an event until the output first equals the request or a limit is used
up again, every tick stays within the ramp. -/
theorem recovery_within_ramp {c : EnvelopeController} {first : EnvelopeTick}
    {rest : List EnvelopeTick} (rate : 0 ≤ c.config.rampRatePerSec)
    (rated : ∀ input ∈ first :: rest, input.powerMin < 0 ∧ 0 < input.powerMax)
    (ramping : c.mode = .ramping ∨ c.Closes first)
    (unviolated : ∀ input ∈ first :: rest, ¬Violated input)
    (unreached : ∀ moment ∈ (history advance c (first :: rest)).dropLast,
      (moment.1.advance moment.2).currentOutput ≠ moment.2.requestedSetpoint)
    (toRequest : ∀ moment ∈ history advance c (first :: rest), moment.1.RampsToRequest moment.2) :
    ∀ moment ∈ history advance c (first :: rest), moment.1.WithinRamp moment.2 := by
  induction rest generalizing c first with
  | nil =>
      have forward := rampsForward_of_rate rate (rated first (by simp)).2.le
      have here := ramping_tick forward ramping (unviolated first (by simp))
        (toRequest (c, first) (by simp [history]))
      intro moment member
      obtain rfl := List.mem_singleton.mp member
      exact here.1
  | cons second rest ih =>
      have forward := rampsForward_of_rate rate (rated first (by simp)).2.le
      have here := ramping_tick forward ramping (unviolated first (by simp))
        (toRequest (c, first) (by simp [history]))
      have goesOn : (c.advance first).mode = .ramping := by
        rcases here.2 with goesOn | reached
        · exact goesOn
        · exact absurd reached (unreached (c, first) (by simp [history]))
      have later : ∀ moment ∈ history advance (c.advance first) (second :: rest),
          moment.1.WithinRamp moment.2 := by
        refine ih ?_ ?_ (.inl goesOn) ?_ ?_ ?_
        · rwa [advance, tick_config]
        · intro input member
          exact rated input (List.mem_cons_of_mem _ member)
        · intro input member
          exact unviolated input (List.mem_cons_of_mem _ member)
        · intro moment member
          exact unreached moment (List.mem_cons_of_mem _ member)
        · intro moment member
          exact toRequest moment (List.mem_cons_of_mem _ member)
      intro moment member
      rcases List.mem_cons.mp member with rfl | member
      · exact here.1
      · exact later moment member

/-- In a recovery whose ramp only ends on the request, every tick is within the ramp. -/
theorem recovery_ramps_to_request {c : EnvelopeController} {first : EnvelopeTick}
    {rest : List EnvelopeTick} (rate : 0 ≤ c.config.rampRatePerSec)
    (rated : ∀ input ∈ first :: rest, input.powerMin < 0 ∧ 0 < input.powerMax)
    (closes : c.Closes first) (unviolated : ∀ input ∈ rest, ¬Violated input)
    (unreached : ∀ moment ∈ (history advance c (first :: rest)).dropLast,
      (moment.1.advance moment.2).currentOutput ≠ moment.2.requestedSetpoint)
    (toRequest : ∀ moment ∈ history advance c (first :: rest), moment.1.RampsToRequest moment.2) :
    ∀ moment ∈ history advance c (first :: rest), moment.1.WithinRamp moment.2 := by
  refine recovery_within_ramp rate rated (.inr closes) ?_ unreached toRequest
  intro input member
  rcases List.mem_cons.mp member with rfl | later
  · exact (dwell_of_closes closes).1
  · exact unviolated input later

def quickConfig : EnvelopeConfig := { plainConfig with hysteresisDwell := Duration.fromSecs 1 }

/-- The limit lifts in two steps; the ramp reaches the first one and is over. -/
def halfLifted : EnvelopeTick := { atLimit with exportLimit := some 60, activePower := 10 }

def lifted : EnvelopeTick := { halfLifted with exportLimit := some 100 }

/-- The ramp ends on a limit of 60, and the rest of the way to the request of 100 is one step. -/
theorem recovery_jumps_from_limit :
    (run advance (new quickConfig 50) [atLimit]).Closes halfLifted ∧ ¬Violated lifted ∧
      ((run advance (new quickConfig 50) [atLimit]).advance halfLifted).currentOutput ≠
        halfLifted.requestedSetpoint ∧
      ¬((run advance (new quickConfig 50) [atLimit]).advance halfLifted).WithinRamp lifted := by
  decide +kernel

theorem recovery_ramps_to_request_of_58 :
    (run advance (new quickConfig 50) [atLimit]).WithinRamp
      { halfLifted with requestedSetpoint := 58 } := by
  refine @recovery_ramps_to_request _ _ [] ?_ ?_ ?_ ?_ ?_ ?_
    (run advance (new quickConfig 50) [atLimit], { halfLifted with requestedSetpoint := 58 })
    List.mem_cons_self
  · decide +kernel
  · decide +kernel
  · decide +kernel
  · simp
  · simp [history]
  · intro moment member
    obtain rfl := List.mem_singleton.mp member
    exact .inr ⟨by decide +kernel, .inr (by decide +kernel)⟩

end EnvelopeController

end EmsGateway.Envelope
