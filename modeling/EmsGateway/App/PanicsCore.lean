import EmsGateway.App.TaskSetCore
import EmsGateway.Modbus.Float64

/-!
The numeric operations of the control path that panic: `Duration::from_secs_f64` on a value that
is negative or does not fit, and `f64::clamp` on bounds the wrong way round or not a number. What
deserialization keeps of a spec (`source_map::commands`, `heartbeat::heartbeats`), the tasks built
from it, and their ticks and commands, each stopping at the first panic. The floor of a fleet is
taken in `f64`, where a sum of watts that is zero counts as `+0.0`.
-/

namespace EmsGateway.App

open EmsGateway.Asyncapi EmsGateway.DerDispatch EmsGateway.Dispatch EmsGateway.Envelope
open EmsGateway.Loto
open EmsGateway.Modbus (F64)

inductive Panic where
  | duration (seconds : ℚ)
  | clamp (low : F64) (high : ℚ)
  deriving DecidableEq, Repr

def fromSecsF64 (seconds : ℚ) : Except Panic Duration :=
  if seconds < 0 ∨ 2 ^ 64 ≤ seconds then .error (.duration seconds)
  else .ok (durationFromSecs seconds)

def clampF64 (value : ℚ) (low : F64) (high : ℚ) : Except Panic ℚ :=
  match low with
  | .finite low =>
      if low ≤ high then .ok (max low (min value high)) else .error (.clamp (.finite low) high)
  | .infinite true => .ok (min value high)
  | .infinite false => .error (.clamp (.infinite false) high)
  | .nan => .error (.clamp .nan high)

/-! `asyncapi::types` -/

/-- The register that is written, and whether Modbus can write it, concern no panic. -/
structure HeartbeatSource where
  counterModulo : ℕ
  periodS : ℚ
  deriving DecidableEq, Repr

def runnable (h : HeartbeatSource) : Except String Unit :=
  let modulo := h.counterModulo
  let period := h.periodS
  if modulo < 2 then .error s!"counter_modulo {modulo} doesn't count"
  else if ¬0 < period then .error s!"period_s {period} isn't a period"
  else .ok ()

def wholeGuard (p : PowerCapBinding) : Except String Unit :=
  let present := [p.importLimitTopic.isSome, p.exportLimitTopic.isSome,
    p.poiActivePowerTopic.isSome, p.hysteresisMargin.isSome, p.hysteresisDwellSecs.isSome,
    p.rampRatePerSec.isSome]
  let n := present.count true
  if n = 0 ∨ n = 6 then .ok () else .error s!"power_cap envelope guard has {n} of its 6 fields"

def usable (source : CommandSource) : Except String Unit :=
  match source.binding with
  | .powerCap p => wholeGuard p
  | _ => .ok ()

/-- A spec as deserialization leaves it. -/
structure AcceptedSpec extends SourceMaps where
  heartbeatSource : List (String × HeartbeatSource)
  usableCommands : ∀ command ∈ toSourceMaps.commands, usable command.2 = .ok ()
  runnableHeartbeats : ∀ entry ∈ heartbeatSource, runnable entry.2 = .ok ()

def envelopeGuardConfigF64 (d : DistributeBinding) : Except Panic (Option EnvelopeGuardConfig) :=
  match d.rampRatePerSec, d.hysteresisMargin, d.hysteresisDwellSecs with
  | some _, some _, some dwellSecs => do
      let _ ← fromSecsF64 dwellSecs
      return envelopeGuardConfig d
  | _, _, _ => .ok none

def fromBindingF64 (deviceId channelKey : String) (b : PowerCapBinding) (siteId : String) :
    Except Panic (Option ShedTaskConfig) :=
  match b.rampRatePerSec, b.hysteresisMargin, b.hysteresisDwellSecs with
  | some _, some _, some dwellSecs => do
      let _ ← fromSecsF64 dwellSecs
      return ShedTaskConfig.fromBinding deviceId channelKey b siteId
  | _, _, _ => .ok none

/-! `control_law` -/

/-- What the controller is ticked with; `none` while the POI meter is quiet. -/
def steerTick (cfg : EnvelopeTaskConfig) (guard : EnvelopeGuardConfig) (state : TaskState)
    (input : TaskInput) (requestedSetpoint activePower : ℚ) (poi : Option (ℚ × Instant)) :
    Option EnvelopeTick :=
  let (_, poiFresh, holdApproach) :=
    match poi with
    | some (_, receivedAt) => state.writes.gate.take receivedAt
    | none => (state.writes.gate, true, false)
  let quiet :=
    match poi with
    | some (_, receivedAt) => decide (staleAfter < elapsed input.now receivedAt)
    | none => false
  let limit := fun topic => reading input.cache (substituteSiteId topic input.siteId)
  if quiet then none
  else
    some {
      importLimit := limit guard.importLimitTopic
      exportLimit := limit guard.exportLimitTopic
      activePower := activePower
      requestedSetpoint :=
        rechargeRequestedW cfg.binding cfg.deviceId requestedSetpoint input.siteId input.cache
      poiActivePower := poi.map Prod.fst
      poiFresh := poiFresh
      holdApproach := holdApproach
      powerMin := guard.powerMin
      powerMax := guard.powerMax
      dt := input.dt }

def seededController (guard : EnvelopeGuardConfig) (state : TaskState) (activePower : ℚ) :
    EnvelopeController :=
  state.controller.getD (EnvelopeController.new guard.control activePower)

/-- Every branch of the controller's tick clamps the request to the same two bounds. -/
def tickClamp (c : EnvelopeController) (t : EnvelopeTick) : Except Panic ℚ :=
  clampF64 t.requestedSetpoint (.finite (c.floor t)) (c.ceiling t)

def tickOnceF64 (cfg : EnvelopeTaskConfig) (state : TaskState) (input : TaskInput) :
    Except Panic Ticked := do
  let requestedSetpoint := (input.requested (cfg.deviceId, cfg.channelKey)).getD 0
  match cfg.guard with
  | none => return tickOnce cfg state input
  | some guard =>
      match guardInputs guard input with
      | none => return tickOnce cfg state input
      | some (activePower, poi) =>
          match steerTick cfg guard state input requestedSetpoint activePower poi with
          | none => return tickOnce cfg state input
          | some t =>
              let _ ← tickClamp (seededController guard state activePower) t
              return tickOnce cfg state input

/-! `shed` -/

/-- The lower bound of the clamp, from the sums that `inputs` takes of the children. -/
def shedFloor (children : List CapChild) : F64 :=
  let fleetMaxW := F64.sum (children.map CapChild.maxW)
  let fleetMinW := F64.sum (children.map CapChild.minW)
  let wattsToPercent := (F64.finite 100).div fleetMaxW
  fleetMinW.mul wattsToPercent

/-- A positive number of watts as a percentage of the fleet, no more than one step. -/
def percentStep (t : ShedTick) (watts step : ℚ) : ℚ :=
  if t.fleetMaxW = 0 then step else min (watts * (100 / t.fleetMaxW)) step

def steersTo (c : ShedController) (t : ShedTick) : Option ℚ :=
  let current := c.current t
  let step := c.config.rampRatePerSec * 100 * Duration.asSecs t.dt
  let overLimit := t.poiActivePower - t.importLimit
  let exported := -t.poiActivePower - t.exportLimit
  let headroom := t.importLimit - t.poiActivePower - c.config.hysteresisMargin * t.fleetMaxW
  (c.target t).2.map fun _ =>
    if 0 < exported then current + percentStep t exported step
    else if 0 < overLimit then current - percentStep t overLimit step
    else if 0 < headroom ∧ current < t.requestedPercent then
      current + percentStep t headroom step
    else current

def shedTickF64 (c : ShedController) (children : List CapChild) (t : ShedTick) :
    Except Panic (ShedController × Option ℚ) := do
  let current := c.current t
  let next := (c.target t).1
  match steersTo c t with
  | none => return (next, none)
  | some target =>
      let proposed ← clampF64 (quantize current target) (shedFloor children) t.requestedPercent
      return (next, if stepPercent / 2 ≤ |proposed - current| then some proposed else none)

/-! `power_cap` -/

def childCapF64 (c : CapChild) (percent : ℚ) : Except Panic (String × String × ℚ) := do
  let exact ← clampF64 (c.maxW * percent / 100) (.finite c.minW) c.maxW
  return (c.deviceId, "set_" ++ c.target, wholeWatts exact)

def childCapsF64 (binding : PowerCapBinding) (percent : ℚ) :
    Except Panic (List (String × String × ℚ)) :=
  binding.children.mapM fun c => childCapF64 c percent

def moduleCapsF64 (modules : List CapModule) (percent : ℚ) (requested : Requested) :
    Except Panic (List (String × String × ℚ)) := do
  let caps ← modules.mapM fun m =>
    childCapsF64 m.binding (min percent ((requested (m.deviceId, m.channelKey)).getD 100))
  return caps.flatten

/-! `app` -/

structure ShedTask where
  cfg : ShedTaskConfig
  controller : ShedController
  lastPoi : Option Instant

structure Running where
  requested : Requested
  envelopes : List (EnvelopeTaskConfig × TaskState)
  sheds : List ShedTask

def envelopeOf (task : Task) : Option (EnvelopeTaskConfig × TaskState) :=
  match task with
  | .envelope cfg => some (cfg, .initial)
  | _ => none

def shedOf (task : Task) : Option ShedTask :=
  match task with
  | .shed cfg => some ⟨cfg, .new cfg.control, none⟩
  | _ => none

def buildCommand (siteId : String) (command : String × CommandSource) : Except Panic Unit := do
  match command.2.binding with
  | .distribute d => let _ ← envelopeGuardConfigF64 d
  | .powerCap p => let _ ← fromBindingF64 command.1 command.2.key p siteId
  | _ => return ()

def buildHeartbeat (entry : String × HeartbeatSource) : Except Panic Unit := do
  let _ ← fromSecsF64 entry.2.periodS

/-- `input_topics` looks at the same guards before the tasks are spawned. -/
def build (spec : AcceptedSpec) (siteId : String) (requested : Requested) :
    Except Panic Running := do
  spec.commands.forM (buildCommand siteId)
  spec.heartbeatSource.forM buildHeartbeat
  let tasks := spawnTaskSet spec.toSourceMaps siteId
  return ⟨requested, tasks.filterMap envelopeOf, tasks.filterMap shedOf⟩

inductive ControlStep where
  | rebalance (index : ℕ) (input : TaskInput) (landedAt : Option Instant)
  | shed (index : ℕ) (cache : InputCache) (now : Instant) (locked : Finset String) (south : South)
  | command (topic : String) (frame : Option CommandFrame) (accepts : Broker) (cache : InputCache)
      (now : Instant) (locked : Finset String) (south : South)

def rebalanceF64 (task : EnvelopeTaskConfig × TaskState) (input : TaskInput)
    (landedAt : Option Instant) : Except Panic (EnvelopeTaskConfig × TaskState) := do
  let ticked ← tickOnceF64 task.1 task.2 input
  match ticked.plan, landedAt with
  | some plan, some now => return (task.1, ticked.state.landed plan now)
  | _, _ => return (task.1, ticked.state)

def shedF64 (channels : DeviceChannels) (requested : Requested) (task : ShedTask)
    (cache : InputCache) (now : Instant) (locked : Finset String) (south : South) :
    Except Panic ShedTask := do
  let cfg := task.cfg
  let spare := spareW cfg.storage cfg.poiTopic cfg.siteId cache now locked
  match shedInputs cfg cache spare task.lastPoi with
  | none => return task
  | some (t, receivedAt) =>
      let (controller, proposed) ← shedTickF64 task.controller cfg.children t
      match proposed with
      | none => return ⟨cfg, controller, some receivedAt⟩
      | some percent =>
          let caps ← moduleCapsF64 cfg.modules percent requested
          let lands := (writeCaps caps channels locked south).result.isOk
          return ⟨cfg, if lands then controller.confirm percent else controller, some receivedAt⟩

def executeF64 (pending : Pending) (cache : InputCache) (now : Instant) (south : South) :
    Except Panic Executed := do
  match pending.binding with
  | .powerCap p =>
      let _ ← childCapsF64 p pending.value
      return pending.execute cache now south
  | .distribute d =>
      let _ ← envelopeGuardConfigF64 d
      return pending.execute cache now south
  | _ => return pending.execute cache now south

def commandF64 (env : CommandEnv) (accepts : Broker) (requested : Requested) (topic : String)
    (frame : Option CommandFrame) (cache : InputCache) (now : Instant) (south : South) :
    Except Panic Requested := do
  match beginCommand env accepts requested topic frame with
  | (recorded, .settled _) => return recorded
  | (recorded, .writing pending) =>
      let executed ← executeF64 pending cache now south
      return (finishCommand accepts recorded pending executed.result).1

def controlStep (spec : AcceptedSpec) (siteId : String) (r : Running) (step : ControlStep) :
    Except Panic Running := do
  match step with
  | .rebalance index input landedAt =>
      match r.envelopes[index]? with
      | none => return r
      | some task =>
          let next ← rebalanceF64 task { input with siteId := siteId, requested := r.requested }
            landedAt
          return { r with envelopes := r.envelopes.set index next }
  | .shed index cache now locked south =>
      match r.sheds[index]? with
      | none => return r
      | some task =>
          let next ← shedF64 spec.channels r.requested task cache now locked south
          return { r with sheds := r.sheds.set index next }
  | .command topic frame accepts cache now locked south =>
      let requested ← commandF64 ⟨siteId, spec.channels, locked⟩ accepts r.requested topic frame
        cache now south
      return { r with requested := requested }

/-- The first panic ends the run. -/
def control (spec : AcceptedSpec) (siteId : String) (requested : Requested)
    (steps : List ControlStep) : Except Panic Running := do
  let r ← build spec siteId requested
  steps.foldlM (controlStep spec siteId) r

end EmsGateway.App
