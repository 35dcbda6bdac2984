import EmsGateway.Dispatch.Distribute
import EmsGateway.Envelope.TaskCore
import EmsGateway.Library.Runs

/-!
Whether the controller of a guarded task can wind up: command something other than what its
children were last told to deliver. A run keeps the task's state and the total of the most
recently computed shares; a step is one tick and whether its writes landed.
-/

namespace EmsGateway.Envelope

open EmsGateway.Asyncapi EmsGateway.Dispatch EmsGateway.Library

/-- `delivering` says of the last tick that moved the controller whether it went on to compute
shares while the DER may energize. -/
structure TaskRun where
  task : TaskState
  lastDelivered : Option ℚ
  delivering : Bool

def TaskRun.initial : TaskRun := ⟨.initial, none, false⟩

structure TaskStep where
  input : TaskInput
  landedAt : Option Instant

def settleWrites (ticked : Ticked) (landedAt : Option Instant) : TaskState :=
  match ticked.plan, landedAt with
  | some plan, some now => ticked.state.landed plan now
  | _, _ => ticked.state

@[simp] theorem settleWrites_controller (ticked : Ticked) (landedAt : Option Instant) :
    (settleWrites ticked landedAt).controller = ticked.state.controller := by
  unfold settleWrites
  split
  · rfl
  · rfl

def holdsTick (cfg : EnvelopeTaskConfig) (input : TaskInput) : Bool :=
  match cfg.guard with
  | none => false
  | some guard => (guardInputs guard input).isNone

def sharesComputable (cfg : EnvelopeTaskConfig) (input : TaskInput) : Bool :=
  match cfg.binding with
  | .distribute d => (computeShares d 0 input.siteId input.cache input.now input.locked).isOk
  | _ => false

def TaskRun.step (cfg : EnvelopeTaskConfig) (run : TaskRun) (step : TaskStep) : TaskRun :=
  let ticked := tickOnce cfg run.task step.input
  { task := settleWrites ticked step.landedAt
    lastDelivered := (ticked.shares.map delivered).or run.lastDelivered
    delivering :=
      if holdsTick cfg step.input then run.delivering
      else sharesComputable cfg step.input && !mustCease step.input.siteId step.input.cache }

def NotWoundUp (run : TaskRun) : Prop :=
  ∀ c total, run.task.controller = some c → run.lastDelivered = some total →
    |c.currentOutput - total| ≤ 1

theorem tickTarget_eq_none {cfg : EnvelopeTaskConfig} {state : TaskState} {input : TaskInput} :
    tickTarget cfg state input = none ↔ holdsTick cfg input = true := by
  unfold holdsTick tickTarget
  cases cfg.guard with
  | none => simp
  | some guard => simp [Option.isNone_iff_eq_none]

theorem tickTarget_output {cfg : EnvelopeTaskConfig} {state steered : TaskState}
    {input : TaskInput} {raw : ℚ} (target : tickTarget cfg state input = some (steered, raw))
    (guarded : cfg.guard.isSome = true) {c : EnvelopeController}
    (controller : steered.controller = some c) : c.currentOutput = raw := by
  unfold tickTarget at target
  cases guardIs : cfg.guard with
  | none => simp [guardIs] at guarded
  | some guard =>
      simp only [guardIs, Option.map_eq_some_iff, Prod.mk.injEq] at target
      obtain ⟨_, _, steeredIs, rawIs⟩ := target
      rw [← steeredIs] at controller
      simp only [Option.some.injEq] at controller
      rw [← controller, rawIs]

theorem syncController_within {controller : Option EnvelopeController} {target : ℚ}
    {shares : Shares}
    (output : ∀ c, controller = some c → c.currentOutput = target) {c : EnvelopeController}
    (synced : syncController controller target shares = some c) :
    |c.currentOutput - delivered shares| ≤ 1 := by
  unfold syncController at synced
  obtain ⟨before, found, rfl⟩ := Option.map_eq_some_iff.mp synced
  split
  · simp [EnvelopeController.syncToDelivered]
  · rename_i close
    rw [output before found, abs_sub_comm]
    exact not_lt.mp close

theorem tickOnce_computed {cfg : EnvelopeTaskConfig} {state steered : TaskState}
    {input : TaskInput} {raw : ℚ} (target : tickTarget cfg state input = some (steered, raw))
    (computable : sharesComputable cfg input = true) :
    ∃ shares, (tickOnce cfg state input).shares = some shares ∧
      (tickOnce cfg state input).state.controller =
        syncController steered.controller (energizeTargetW raw input.siteId input.cache)
          shares := by
  unfold sharesComputable at computable
  unfold tickOnce
  simp only [target]
  cases binding : cfg.binding with
  | distribute d =>
      rw [binding] at computable
      dsimp only at computable ⊢
      rw [computeShares_isOk d input.siteId input.cache input.now input.locked 0
        (energizeTargetW raw input.siteId input.cache)] at computable
      obtain ⟨shares, computed⟩ := exists_of_isOk computable
      rw [computed]
      exact ⟨shares, rfl, rfl⟩
  | _ =>
      rw [binding] at computable
      exact absurd computable Bool.false_ne_true

theorem tickOnce_held {cfg : EnvelopeTaskConfig} {state : TaskState} {input : TaskInput}
    (held : holdsTick cfg input = true) : tickOnce cfg state input = ⟨state, none, none⟩ := by
  unfold tickOnce
  rw [tickTarget_eq_none.mpr held]

theorem notWoundUp_step {cfg : EnvelopeTaskConfig} (guarded : cfg.guard.isSome = true)
    (run : TaskRun) (step : TaskStep) (before : run.delivering = true → NotWoundUp run)
    (delivering : (run.step cfg step).delivering = true) : NotWoundUp (run.step cfg step) := by
  intro c total controller last
  simp only [TaskRun.step, settleWrites_controller] at controller last delivering
  by_cases held : holdsTick cfg step.input = true
  · rw [if_pos held] at delivering
    rw [tickOnce_held held] at controller last
    exact before delivering c total controller (by simpa using last)
  · rw [if_neg held, Bool.and_eq_true, Bool.not_eq_true'] at delivering
    cases target : tickTarget cfg run.task step.input with
    | none => exact absurd (tickTarget_eq_none.mp target) held
    | some found =>
        obtain ⟨steered, raw⟩ := found
        obtain ⟨shares, computed, synced⟩ := tickOnce_computed target delivering.1
        rw [computed, Option.map_some, Option.some_or, Option.some.injEq] at last
        rw [synced] at controller
        rw [← last]
        refine syncController_within ?_ controller
        intro other found
        rw [energizeTargetW, delivering.2]
        exact tickTarget_output target guarded found

/-- After every tick, if the last tick that moved the controller computed shares while the DER
may energize, the controller's output is within one watt of what the children were given. -/
theorem no_windup (cfg : EnvelopeTaskConfig) (guarded : cfg.guard.isSome = true)
    (steps : List TaskStep) :
    Along (TaskRun.step cfg) (fun run step => (run.step cfg step).delivering = true →
      NotWoundUp (run.step cfg step)) .initial steps := by
  have always : Along (TaskRun.step cfg) (fun _ _ => True) .initial steps :=
    along_of_forall (fun _ _ => trivial) _ _
  refine Along.of_invariant (fun run => run.delivering = true → NotWoundUp run) ?_ ?_ ?_ always
  · intro run step before _
    exact notWoundUp_step guarded run step before
  · intro run step before _
    exact notWoundUp_step guarded run step before
  · intro impossible
    exact absurd impossible Bool.false_ne_true

/-! A guarded module with one rack and a request of 60 W, ticking while the DER may or must not
energize. -/

def guardedModule : DistributeBinding :=
  { rackBinding [rack "r1" 100] with
    rampRatePerSec := some (1 / 10)
    hysteresisMargin := some (1 / 20)
    hysteresisDwellSecs := some 30
    powerMin := some (-100)
    powerMax := some 100
    importLimitTopic := some "sites/\x7bsite_id\x7d/import_limit"
    exportLimitTopic := some "sites/\x7bsite_id\x7d/export_limit"
    activePowerTopic := some "sites/\x7bsite_id\x7d/active_power" }

def guardedTask : EnvelopeTaskConfig :=
  ⟨"m", "set_active_power", envelopeGuardConfig guardedModule, .distribute guardedModule⟩

def energizeTick (energize : Bool) : TaskStep :=
  { input := {
      dt := Duration.fromSecs 1
      now := 0
      siteId := "s1"
      cache := fun topic =>
        if topic = "sites/s1/active_power" then some (.number 0, 0)
        else if topic = energizeEnabledTopic "s1" then some (.bool energize, 0)
        else rackCache topic
      requested := fun _ => some 60
      locked := ∅ }
    landedAt := some 0 }

theorem no_windup_after_energize_hold :
    NotWoundUp (run (TaskRun.step guardedTask) .initial
      [energizeTick true, energizeTick false, energizeTick true]) :=
  (no_windup guardedTask (by decide +kernel)
    [energizeTick true, energizeTick false, energizeTick true]).2.2.1 (by decide +kernel)

/-- The hold of a DER that must not energize writes 0 W and leaves the controller at 60 W. -/
theorem windup_behind_energize_hold :
    ¬∀ (cfg : EnvelopeTaskConfig) (steps : List TaskStep), cfg.guard.isSome = true →
      Along (TaskRun.step cfg) (fun run step => NotWoundUp (run.step cfg step)) .initial
        steps := by
  intro claimed
  have along := claimed guardedTask [energizeTick true, energizeTick false] (by decide +kernel)
  have output : (run (TaskRun.step guardedTask) .initial
      [energizeTick true, energizeTick false]).task.controller.map
        EnvelopeController.currentOutput = some 60 := by decide +kernel
  have last : (run (TaskRun.step guardedTask) .initial
      [energizeTick true, energizeTick false]).lastDelivered = some 0 := by decide +kernel
  obtain ⟨c, controller, wound⟩ := Option.map_eq_some_iff.mp output
  have within := along.2.1 c 0 controller last
  rw [wound] at within
  norm_num at within

end EmsGateway.Envelope
