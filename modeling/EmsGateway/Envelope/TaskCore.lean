import EmsGateway.Dispatch.CommandCore
import EmsGateway.Envelope.WritesCore

/-!
One tick of a module's rebalance task (`envelope::task`), with what it steers toward:
`envelope::recharge`, `envelope::energize`, `envelope::stale` and `envelope::anti_windup`.
A tick reads the cache and the clock once. `tickOnce` ends with the planned writes; whether
they land is decided by the south side, and `TaskState.landed` records it.
-/

namespace EmsGateway.Envelope

open EmsGateway.Asyncapi EmsGateway.Dispatch

def reading (cache : InputCache) (topic : String) : Option ℚ :=
  (cache topic).bind fun entry => asNumber entry.1

/-! `recharge` -/

def eventActiveTopic (siteId : String) : String :=
  s!"sites/{siteId}/devices/der_dispatch/measurements/event_active/none"

def moduleSocTopic (siteId deviceId : String) : String :=
  s!"sites/{siteId}/devices/{deviceId}/measurements/state_of_charge/percent"

def rechargeRequestedW (binding : ProtocolBinding) (deviceId : String) (requestedW : ℚ)
    (siteId : String) (cache : InputCache) : ℚ :=
  match binding with
  | .distribute d =>
      match d.readinessSocPercent, d.rechargePowerW,
        reading cache (eventActiveTopic siteId), reading cache (moduleSocTopic siteId deviceId) with
      | some readiness, some rechargeW, some event, some soc =>
          if requestedW = 0 ∧ event < 1 / 2 ∧ soc < readiness then -rechargeW else requestedW
      | _, _, _, _ => requestedW
  | _ => requestedW

/-! `energize` -/

def energizeEnabledTopic (siteId : String) : String :=
  s!"sites/{siteId}/devices/der_dispatch/measurements/energize_enabled/none"

def mustCease (siteId : String) (cache : InputCache) : Bool :=
  match reading cache (energizeEnabledTopic siteId) with
  | some energize => decide (energize < 1 / 2)
  | none => false

def energizeTargetW (targetW : ℚ) (siteId : String) (cache : InputCache) : ℚ :=
  if mustCease siteId cache then 0 else targetW

/-! `stale` and `anti_windup` -/

def EnvelopeController.rampToZero (c : EnvelopeController) (guard : EnvelopeGuardConfig)
    (dt : Duration) : EnvelopeController :=
  let u := c.currentOutput
  let rated := if 0 < u then guard.powerMax else |guard.powerMin|
  let longest := guard.control.rampRatePerSec * rated * Duration.asSecs dt
  { c with
    currentOutput :=
      if |u| ≤ longest then 0 else u - longest * EnvelopeController.signum u }

def EnvelopeController.syncToDelivered (c : EnvelopeController) (delivered : ℚ) :
    EnvelopeController :=
  { c with currentOutput := delivered }

/-! `task` -/

structure TaskState where
  controller : Option EnvelopeController
  writes : WriteState

def TaskState.initial : TaskState := ⟨none, .empty⟩

structure TaskInput where
  dt : Duration
  now : Instant
  siteId : String
  cache : InputCache
  requested : Requested
  locked : Finset String

def guardInputs (guard : EnvelopeGuardConfig) (input : TaskInput) :
    Option (ℚ × Option (ℚ × Instant)) :=
  match reading input.cache (substituteSiteId guard.activePowerTopic input.siteId),
    guard.poiActivePowerTopic with
  | none, _ => none
  | some activePower, none => some (activePower, none)
  | some activePower, some topic =>
      match input.cache (substituteSiteId topic input.siteId) with
      | none => none
      | some (value, receivedAt) =>
          (asNumber value).map fun poi => (activePower, some (poi, receivedAt))

def steer (cfg : EnvelopeTaskConfig) (guard : EnvelopeGuardConfig) (state : TaskState)
    (input : TaskInput) (requestedSetpoint activePower : ℚ) (poi : Option (ℚ × Instant)) :
    EnvelopeController × PoiGate :=
  let c := state.controller.getD (EnvelopeController.new guard.control activePower)
  let (gate, poiFresh, holdApproach) :=
    match poi with
    | some (_, receivedAt) => state.writes.gate.take receivedAt
    | none => (state.writes.gate, true, false)
  let quiet :=
    match poi with
    | some (_, receivedAt) => decide (staleAfter < elapsed input.now receivedAt)
    | none => false
  if quiet then (c.rampToZero guard input.dt, gate)
  else
    let limit := fun topic => reading input.cache (substituteSiteId topic input.siteId)
    let ticked := c.tick {
      importLimit := limit guard.importLimitTopic
      exportLimit := limit guard.exportLimitTopic
      activePower := activePower
      requestedSetpoint :=
        rechargeRequestedW cfg.binding cfg.deviceId requestedSetpoint input.siteId input.cache
      poiActivePower := poi.map Prod.fst
      poiFresh := poiFresh
      holdApproach := holdApproach
      powerMin := guard.powerMin
      powerMax := guard.powerMax
      dt := input.dt }
    (ticked.1, gate)

def tickTarget (cfg : EnvelopeTaskConfig) (state : TaskState) (input : TaskInput) :
    Option (TaskState × ℚ) :=
  let requestedSetpoint := (input.requested (cfg.deviceId, cfg.channelKey)).getD 0
  match cfg.guard with
  | none => some (state, requestedSetpoint)
  | some guard =>
      (guardInputs guard input).map fun (activePower, poi) =>
        let (c, gate) := steer cfg guard state input requestedSetpoint activePower poi
        (⟨some c, { state.writes with gate := gate }⟩, c.currentOutput)

structure Ticked where
  state : TaskState
  shares : Option Shares
  plan : Option Plan

def delivered (shares : Shares) : ℚ := (shares.map Prod.snd).sum

/-- Children at their floor or offline can't take their share, and the controller must not keep
commanding what can't be delivered. -/
def syncController (controller : Option EnvelopeController) (target : ℚ) (shares : Shares) :
    Option EnvelopeController :=
  controller.map fun c =>
    if 1 < |delivered shares - target| then c.syncToDelivered (delivered shares) else c

def tickOnce (cfg : EnvelopeTaskConfig) (state : TaskState) (input : TaskInput) : Ticked :=
  match tickTarget cfg state input with
  | none => ⟨state, none, none⟩
  | some (steered, raw) =>
      let target := energizeTargetW raw input.siteId input.cache
      match cfg.binding with
      | .distribute d =>
          match computeShares d target input.siteId input.cache input.now input.locked with
          | .error _ => ⟨steered, none, none⟩
          | .ok shares =>
              let (writes, plan) := steered.writes.plan shares
              ⟨⟨syncController steered.controller target shares, writes⟩, some shares, plan⟩
      | _ => ⟨steered, none, none⟩

def TaskState.landed (state : TaskState) (plan : Plan) (now : Instant) : TaskState :=
  { state with writes := state.writes.landed plan now }

end EmsGateway.Envelope
