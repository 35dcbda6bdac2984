import EmsGateway.Envelope.PoiServo
import EmsGateway.Envelope.ControlLawSafety
import EmsGateway.Library.DelayedIntegrator

/-!
The controller in closed loop with a meter that reads late: the battery delivers each output
exactly, the site load is constant, and every tick's POI reading is the flow of up to three
ticks ago. Each headroom then is a delayed integrator of its own, whose gain 1/10 stays under
(1 - 3/4) * (3/4)³, so a limit that is not overshot at the start never is.
-/

namespace EmsGateway.Envelope

open EmsGateway.Library

structure Loop where
  controller : EnvelopeController
  delivered : ℕ → ℚ

structure LoopInput where
  tick : EnvelopeTick
  lag : ℕ

namespace Loop

def output (loop : Loop) : ℚ := loop.controller.currentOutput

def metered (load : ℚ) (loop : Loop) (input : LoopInput) : EnvelopeTick :=
  { input.tick with poiActivePower := some (load - loop.delivered input.lag) }

def step (load : ℚ) (loop : Loop) (input : LoopInput) : Loop :=
  let next := loop.controller.advance (loop.metered load input)
  { controller := next
    delivered := fun
      | 0 => next.currentOutput
      | age + 1 => loop.delivered age }

def after (load : ℚ) (start : Loop) (inputs : ℕ → LoopInput) : ℕ → Loop
  | 0 => start
  | k + 1 => (after load start inputs k).step load (inputs k)

def Settled (loop : Loop) : Prop :=
  ∀ age ≤ 3, loop.delivered age = loop.output

theorem delivered_eq_output (load : ℚ) {start : Loop} (inputs : ℕ → LoopInput)
    (settled : start.Settled) (k : ℕ) :
    ∀ age ≤ 3, (start.after load inputs k).delivered age =
      (start.after load inputs (k - age)).output := by
  induction k with
  | zero =>
      intro age bound
      simpa [after] using settled age bound
  | succ k ih =>
      intro age bound
      cases age with
      | zero => rfl
      | succ age =>
          have earlier : k + 1 - (age + 1) = k - age := by omega
          rw [earlier, ← ih age (by omega)]
          rfl

theorem config_after (load : ℚ) (start : Loop) (inputs : ℕ → LoopInput) (k : ℕ) :
    (start.after load inputs k).controller.config = start.controller.config := by
  induction k with
  | zero => rfl
  | succ k ih =>
      rw [← ih]
      exact EnvelopeController.tick_config _ _

end Loop

/-- Constant limits and ratings, a tick of at most a second, a lag of at most three ticks. -/
structure ConstantLimits (importLimit exportLimit : Option ℚ) (powerMin powerMax : ℚ)
    (input : LoopInput) : Prop where
  import_eq : input.tick.importLimit = importLimit
  export_eq : input.tick.exportLimit = exportLimit
  min_eq : input.tick.powerMin = powerMin
  max_eq : input.tick.powerMax = powerMax
  short : input.tick.dt ≤ Duration.fromSecs 1
  lag_le : input.lag ≤ 3

structure SettledRun (importLimit exportLimit : Option ℚ) (powerMin powerMax : ℚ) (start : Loop)
    (inputs : ℕ → LoopInput) : Prop where
  band : ∀ imported ∈ importLimit, ∀ exported ∈ exportLimit, 0 ≤ imported + exported
  settled : start.Settled
  memory : start.controller.prevLimits = (importLimit, exportLimit)
  jumpHold_zero : start.controller.jumpHold = 0
  rated : EnvelopeController.WithinRating powerMin powerMax start.output
  constant : ∀ k, ConstantLimits importLimit exportLimit powerMin powerMax (inputs k)

section Run

variable {powerMin powerMax : ℚ} {importLimit exportLimit : Option ℚ} {start : Loop}
  {inputs : ℕ → LoopInput} (load : ℚ)

theorem SettledRun.memory_after
    (run : SettledRun importLimit exportLimit powerMin powerMax start inputs) (k : ℕ) :
    (start.after load inputs k).controller.prevLimits = (importLimit, exportLimit) := by
  cases k with
  | zero => exact run.memory
  | succ k =>
      have remembered := EnvelopeController.tick_prevLimits
        (start.after load inputs k).controller ((start.after load inputs k).metered load (inputs k))
      rw [← (run.constant k).import_eq, ← (run.constant k).export_eq]
      exact remembered

theorem SettledRun.unchanged
    (run : SettledRun importLimit exportLimit powerMin powerMax start inputs) (k : ℕ)
    (fresh : Bool) :
    Unchanged (start.after load inputs k).controller.prevLimits
      { (start.after load inputs k).metered load (inputs k) with poiFresh := fresh } := by
  refine ⟨?_, (run.constant k).short⟩
  rw [run.memory_after load k, ← (run.constant k).import_eq, ← (run.constant k).export_eq]
  rfl

theorem SettledRun.rampsForward
    (run : SettledRun importLimit exportLimit powerMin powerMax start inputs)
    (upward : 0 ≤ start.controller.config.rampRatePerSec * powerMax)
    (downward : 0 ≤ start.controller.config.rampRatePerSec * |powerMin|) (k : ℕ) :
    (start.after load inputs k).controller.RampsForward
      ((start.after load inputs k).metered load (inputs k)) := by
  unfold EnvelopeController.RampsForward
  rw [Loop.config_after]
  change 0 ≤ _ * (inputs k).tick.powerMax ∧ 0 ≤ _ * |(inputs k).tick.powerMin|
  rw [(run.constant k).max_eq, (run.constant k).min_eq]
  exact ⟨upward, downward⟩

theorem SettledRun.output_le {exported : ℚ}
    (run : SettledRun importLimit (some exported) powerMin powerMax start inputs)
    (upward : 0 ≤ start.controller.config.rampRatePerSec * powerMax)
    (downward : 0 ≤ start.controller.config.rampRatePerSec * |powerMin|) (k : ℕ)
    (room : 0 ≤ load - (start.after load inputs k).delivered (inputs k).lag + exported) :
    (start.after load inputs (k + 1)).output ≤ (start.after load inputs k).output +
      approachGainPerSec *
        (load - (start.after load inputs k).delivered (inputs k).lag + exported) := by
  have spent : 0 ≤ approachGainPerSec *
      (load - (start.after load inputs k).delivered (inputs k).lag + exported) :=
    mul_nonneg (by norm_num [approachGainPerSec]) room
  refine EnvelopeController.tick_output_le (run.rampsForward load upward downward k) ?_ ?_
  · exact le_add_of_nonneg_right spent
  · obtain ⟨fresh, bounds⟩ := (start.after load inputs k).controller.tickBounds_eq
      ((start.after load inputs k).metered load (inputs k))
    have capped := capAt_le_bound ((start.after load inputs k).controller.tickBounds
      ((start.after load inputs k).metered load (inputs k))).ceiling
      ((start.after load inputs k).metered load (inputs k)).powerMax
    have servo := forTick_ceiling_le (start.after load inputs k).output
      (run.unchanged load k fresh) rfl (run.constant k).export_eq room
    rw [bounds] at capped
    have both := capped.trans servo
    rw [← bounds] at both
    exact WithTop.coe_le_coe.mp both

theorem SettledRun.output_le_powerMax
    (run : SettledRun importLimit exportLimit powerMin powerMax start inputs)
    (upward : 0 ≤ start.controller.config.rampRatePerSec * powerMax)
    (downward : 0 ≤ start.controller.config.rampRatePerSec * |powerMin|) (k : ℕ) :
    (start.after load inputs k).output ≤ powerMax := by
  induction k with
  | zero => exact run.rated.2
  | succ k ih =>
      refine EnvelopeController.tick_output_le (run.rampsForward load upward downward k) ih ?_
      exact (EnvelopeController.ceiling_le_powerMax _ _).trans (run.constant k).max_eq.le

theorem SettledRun.le_output {imported : ℚ}
    (run : SettledRun (some imported) exportLimit powerMin powerMax start inputs)
    (upward : 0 ≤ start.controller.config.rampRatePerSec * powerMax)
    (downward : 0 ≤ start.controller.config.rampRatePerSec * |powerMin|) (k : ℕ)
    (room : 0 ≤ imported - (load - (start.after load inputs k).delivered (inputs k).lag)) :
    (start.after load inputs k).output - approachGainPerSec *
        (imported - (load - (start.after load inputs k).delivered (inputs k).lag)) ≤
      (start.after load inputs (k + 1)).output := by
  have spent : 0 ≤ approachGainPerSec *
      (imported - (load - (start.after load inputs k).delivered (inputs k).lag)) :=
    mul_nonneg (by norm_num [approachGainPerSec]) room
  have present := run.output_le_powerMax load upward downward k
  refine EnvelopeController.le_tick_output (run.rampsForward load upward downward k) ?_ ?_
  · exact sub_le_self _ spent
  · obtain ⟨fresh, bounds⟩ := (start.after load inputs k).controller.tickBounds_eq
      ((start.after load inputs k).metered load (inputs k))
    have servo := le_forTick (start.after load inputs k).output
      (run.unchanged load k fresh) rfl (run.constant k).import_eq room (by
        intro exported limited
        refine run.band imported rfl exported ?_
        rw [← (run.constant k).export_eq]
        exact limited)
    unfold EnvelopeController.floor EnvelopeController.ceiling
    rw [bounds]
    refine le_min ?_ ((le_capAt_iff _ _ _).mpr ⟨servo.2, ?_⟩)
    · exact WithBot.coe_le_coe.mp (servo.1.trans (bound_le_raiseTo _ _))
    · change _ ≤ (inputs k).tick.powerMax
      rw [(run.constant k).max_eq]
      linarith

end Run

/-- Through a meter lagging by up to three ticks, a constant limit whose true headroom is not
negative at the start is never overshot, also while the opposite limit is violated and backed
off, provided the ramp does not run backwards. -/
theorem poi_limits_never_overshot {load powerMin powerMax : ℚ}
    {importLimit exportLimit : Option ℚ} {start : Loop} {inputs : ℕ → LoopInput}
    (run : SettledRun importLimit exportLimit powerMin powerMax start inputs)
    (upward : 0 ≤ start.controller.config.rampRatePerSec * powerMax)
    (downward : 0 ≤ start.controller.config.rampRatePerSec * |powerMin|) :
    (∀ exported ∈ exportLimit, 0 ≤ load - start.output + exported →
        ∀ k, 0 ≤ load - (start.after load inputs k).output + exported) ∧
      ∀ imported ∈ importLimit, 0 ≤ imported - load + start.output →
        ∀ k, 0 ≤ imported - load + (start.after load inputs k).output := by
  constructor
  · intro exported limited room
    obtain rfl := Option.mem_def.mp limited
    apply delayedIntegrator_nonneg (3 / 4) approachGainPerSec 3
      (fun k => load - (start.after load inputs k).output + exported)
      (by norm_num) (by norm_num) (by norm_num [approachGainPerSec]) room
    intro k
    refine ⟨(inputs k).lag, (run.constant k).lag_le, ?_⟩
    simp only [← Loop.delivered_eq_output load inputs run.settled k _ (run.constant k).lag_le]
    intro shown
    have spent := run.output_le load upward downward k shown
    linarith
  · intro imported limited room
    obtain rfl := Option.mem_def.mp limited
    apply delayedIntegrator_nonneg (3 / 4) approachGainPerSec 3
      (fun k => imported - load + (start.after load inputs k).output)
      (by norm_num) (by norm_num) (by norm_num [approachGainPerSec]) room
    intro k
    refine ⟨(inputs k).lag, (run.constant k).lag_le, ?_⟩
    simp only [← Loop.delivered_eq_output load inputs run.settled k _ (run.constant k).lag_le]
    intro shown
    have same : imported - load + (start.after load inputs k).delivered (inputs k).lag =
        imported - (load - (start.after load inputs k).delivered (inputs k).lag) := by ring
    rw [same] at shown ⊢
    have spent := run.le_output load upward downward k shown
    linarith

def lateReading : LoopInput :=
  { tick :=
      { importLimit := none
        exportLimit := some 0
        activePower := 0
        requestedSetpoint := 200
        poiActivePower := none
        poiFresh := true
        holdApproach := false
        powerMin := -1000
        powerMax := 1000
        dt := Duration.fromSecs 1 }
    lag := 3 }

def idleStart : Loop :=
  { controller := { EnvelopeController.new EnvelopeController.plainConfig 0 with
      prevLimits := (none, some 0) }
    delivered := fun _ => 0 }

theorem zero_export_held_through_late_readings :
    SettledRun none (some 0) (-1000) 1000 idleStart (fun _ => lateReading) ∧
      ∀ k, 0 ≤ 100 - (idleStart.after 100 (fun _ => lateReading) k).output + 0 := by
  have run : SettledRun none (some 0) (-1000) 1000 idleStart (fun _ => lateReading) := by
    refine ⟨by simp, fun _ _ => rfl, rfl, rfl, by decide +kernel, fun _ => ?_⟩
    exact ⟨rfl, rfl, rfl, rfl, le_rfl, le_rfl⟩
  refine ⟨run, ?_⟩
  exact (poi_limits_never_overshot run (by decide +kernel) (by decide +kernel)).1 0 rfl
    (by decide +kernel)

def backwardsConfig : EnvelopeConfig :=
  { rampRatePerSec := -1
    hysteresisMargin := 0
    hysteresisDwell := 0 }

def backwardsInput : LoopInput :=
  { tick := { lateReading.tick with
      exportLimit := some 1, requestedSetpoint := -50, powerMin := -100, powerMax := 100 }
    lag := 0 }

def backwardsStart : Loop :=
  { controller := (EnvelopeController.new backwardsConfig 0).advance
      { backwardsInput.tick with requestedSetpoint := 0, poiActivePower := some (-1) }
    delivered := fun _ => 0 }

theorem overshot_when_ramp_runs_backwards :
    SettledRun none (some 1) (-100) 100 backwardsStart (fun _ => backwardsInput) ∧
      0 ≤ 0 - backwardsStart.output + 1 ∧
      ¬0 ≤ 0 - (backwardsStart.after 0 (fun _ => backwardsInput) 1).output + 1 := by
  have output : backwardsStart.output = 0 := by decide +kernel
  have limits : backwardsStart.controller.prevLimits = (none, some 1) := by decide +kernel
  have hold : backwardsStart.controller.jumpHold = 0 := by decide +kernel
  refine ⟨⟨by simp, fun _ _ => output.symm, limits, hold, ?_, fun _ => ?_⟩, ?_, ?_⟩
  · rw [output]
    decide +kernel
  · exact ⟨rfl, rfl, rfl, rfl, le_rfl, by decide⟩
  · rw [output]
    norm_num
  · decide +kernel

end EmsGateway.Envelope
