import EmsGateway.Asyncapi.CommandSource
import EmsGateway.DerDispatch.SiteDistributionCore
import EmsGateway.Envelope.ShedCore

/-!
The tasks that `app::spawn_task_set` builds from a spec and that read the input cache, each with
the topics it looks up there, and the topics that `inputs::input_topics` collects for the
subscriptions. The source's maps and ordered sets are lists here. A poller and a heartbeat read
nothing from the cache.
-/

namespace EmsGateway.App

open EmsGateway.Asyncapi EmsGateway.DerDispatch EmsGateway.Dispatch EmsGateway.Envelope
open EmsGateway.Loto

structure WeightedPair where
  topic : String
  weight : ℚ
  deriving DecidableEq, Repr

structure SyntheticBinding where
  operation : String
  inputs : List String := []
  pairs : List WeightedPair := []
  deriving DecidableEq, Repr

/-- Every binding of a measurement but a synthetic one is polled. -/
inductive MeasurementBinding where
  | synthetic (binding : SyntheticBinding)
  | polled
  deriving DecidableEq, Repr

/-- `x-protocol-source` and `x-command-source`: device to channel to entry. -/
structure SourceMaps where
  protocolSource : List (String × List (String × MeasurementBinding))
  commandSource : List (String × List (String × CommandSource))
  deriving DecidableEq, Repr

namespace SourceMaps

def measurements (spec : SourceMaps) : List MeasurementBinding :=
  spec.protocolSource.flatMap fun device => device.2.map Prod.snd

def commands (spec : SourceMaps) : List (String × CommandSource) :=
  spec.commandSource.flatMap fun device => device.2.map fun command => (device.1, command.2)

def channels (spec : SourceMaps) : DeviceChannels :=
  deviceChannels fun deviceId => spec.commandSource.lookup deviceId

end SourceMaps

/-! `inputs` -/

def substituteAll (templates : List String) (siteId : String) : List String :=
  templates.map fun template => substituteSiteId template siteId

def collectSyntheticInputTopics (spec : SourceMaps) (siteId : String) : List String :=
  spec.measurements.flatMap fun measurement =>
    match measurement with
    | .synthetic b => substituteAll (b.inputs ++ b.pairs.map WeightedPair.topic) siteId
    | .polled => []

def EnvelopeGuardConfig.templates (guard : EnvelopeGuardConfig) : List String :=
  [guard.importLimitTopic, guard.exportLimitTopic, guard.activePowerTopic]

def distributeInputTopics (d : DistributeBinding) (siteId : String) : List String :=
  (d.children.flatMap fun child =>
    [substituteSiteId child.operatingStateTopic siteId,
      substituteSiteId child.stateOfChargeTopic siteId,
      limitTopic siteId child.deviceId true, limitTopic siteId child.deviceId false]) ++
  substituteAll d.operatorReserveTopic.toList siteId ++
  match envelopeGuardConfig d with
  | some guard =>
      substituteAll (EnvelopeGuardConfig.templates guard ++ guard.poiActivePowerTopic.toList)
        siteId
  | none => []

/-- A guarded power cap (compute shed) reads the same envelope. -/
def powerCapInputTopics (p : PowerCapBinding) (siteId : String) : List String :=
  substituteAll
    [p.importLimitTopic, p.exportLimitTopic, p.poiActivePowerTopic].reduceOption siteId

def collectDistributeInputTopics (spec : SourceMaps) (siteId : String) : List String :=
  spec.commands.flatMap fun command =>
    match command.2.binding with
    | .distribute d => distributeInputTopics d siteId
    | .powerCap p => powerCapInputTopics p siteId
    | _ => []

def isDistribute (binding : ProtocolBinding) : Bool :=
  match binding with
  | .distribute _ => true
  | _ => false

def distributeParentDeviceIds (spec : SourceMaps) : List String :=
  (spec.commandSource.filter fun device =>
    device.2.any fun command => isDistribute command.2.binding).map Prod.fst

def collectDerDispatchActivePowerTopics (spec : SourceMaps) (siteId : String) : List String :=
  (distributeParentDeviceIds spec).map fun deviceId =>
    substituteSiteId
      ("sites/\x7bsite_id\x7d/devices/" ++ deviceId ++ "/measurements/active_power/watts") siteId

def collectDerDispatchStateOfChargeTopics (spec : SourceMaps) (siteId : String) : List String :=
  (distributeParentDeviceIds spec).map fun deviceId =>
    substituteSiteId
      ("sites/\x7bsite_id\x7d/devices/" ++ deviceId ++ "/measurements/state_of_charge/percent")
      siteId

def targetActivePowerTopic (siteId : String) : String :=
  s!"sites/{siteId}/devices/der_dispatch/measurements/target_active_power/watts"

def targetSetpointPresentTopic (siteId : String) : String :=
  s!"sites/{siteId}/devices/der_dispatch/measurements/target_setpoint_present/none"

def inputTopics (spec : SourceMaps) (siteId : String) : List String :=
  collectSyntheticInputTopics spec siteId ++ collectDistributeInputTopics spec siteId ++
    collectDerDispatchActivePowerTopics spec siteId ++
    collectDerDispatchStateOfChargeTopics spec siteId ++
    [targetActivePowerTopic siteId, eventActiveTopic siteId, targetSetpointPresentTopic siteId,
      energizeEnabledTopic siteId]

/-! `synthetic` -/

inductive Operation where
  | subtract
  | sum
  | mean
  | max
  | min
  | unbalance
  deriving DecidableEq, Repr

def Operation.parse (name : String) : Except String Operation :=
  if name = "subtract" then .ok .subtract
  else if name = "sum" then .ok .sum
  else if name = "mean" then .ok .mean
  else if name = "max" then .ok .max
  else if name = "min" then .ok .min
  else if name = "unbalance" then .ok .unbalance
  else .error s!"unknown synthetic operation: {name}"

inductive Computation where
  | operation (operation : Operation) (inputTopics : List String)
  | weightedMean (pairs : List (String × ℚ))
  deriving DecidableEq, Repr

abbrev StaleLimits := String → Option Duration

def fresh (cache : InputCache) (staleLimits : StaleLimits) (now : Instant) (topic : String) :
    Option CacheEntry :=
  (cache topic).filter fun entry =>
    match staleLimits topic with
    | some limit => decide (elapsed now entry.2 ≤ limit)
    | none => true

def gatherInputs (inputTopics : List String) (cache : InputCache) (staleLimits : StaleLimits)
    (now : Instant) : Option (List ℚ) :=
  inputTopics.mapM fun topic =>
    (fresh cache staleLimits now topic).bind fun entry => asNumber entry.1

def gatherPairs (pairs : List (String × ℚ)) (cache : InputCache) (staleLimits : StaleLimits)
    (now : Instant) : Option (List (ℚ × ℚ)) :=
  pairs.mapM fun pair =>
    (fresh cache staleLimits now pair.1).bind fun entry =>
      (asNumber entry.1).map fun value => (value, pair.2)

/-! `der_dispatch::actual_power` -/

def sumCached (topics : List String) (cache : InputCache) : Option ℚ :=
  if topics.isEmpty then none else (topics.mapM (reading cache)).map List.sum

/-! `shed_task` -/

def ShedTaskConfig.fromBinding (deviceId channelKey : String) (b : PowerCapBinding)
    (siteId : String) : Option ShedTaskConfig := do
  let rampRatePerSec ← b.rampRatePerSec
  let hysteresisMargin ← b.hysteresisMargin
  let dwellSecs ← b.hysteresisDwellSecs
  let poiTopic ← b.poiActivePowerTopic
  let importLimitTopic ← b.importLimitTopic
  let exportLimitTopic ← b.exportLimitTopic
  return {
    modules := [⟨deviceId, channelKey, b⟩]
    control := {
      rampRatePerSec := rampRatePerSec
      hysteresisMargin := hysteresisMargin
      hysteresisDwell := durationFromSecs dwellSecs }
    poiTopic := substituteSiteId poiTopic siteId
    importLimitTopic := substituteSiteId importLimitTopic siteId
    exportLimitTopic := substituteSiteId exportLimitTopic siteId
    storage := []
    siteId := siteId }

def ShedTaskConfig.sameEnvelope (g c : ShedTaskConfig) : Bool :=
  decide ((g.poiTopic, g.importLimitTopic, g.exportLimitTopic) =
    (c.poiTopic, c.importLimitTopic, c.exportLimitTopic))

def ShedTaskConfig.mergeInto (c : ShedTaskConfig) : List ShedTaskConfig → List ShedTaskConfig
  | [] => [c]
  | g :: rest =>
      if ShedTaskConfig.sameEnvelope g c then { g with modules := g.modules ++ c.modules } :: rest
      else g :: ShedTaskConfig.mergeInto c rest

/-- The first module's dwell, margin and ramp govern its group. -/
def ShedTaskConfig.perPoi (configs : List ShedTaskConfig) : List ShedTaskConfig :=
  configs.foldl (fun groups c => ShedTaskConfig.mergeInto c groups) []

/-! `app` -/

inductive Task where
  | synthetic (computation : Computation)
  | envelope (cfg : EnvelopeTaskConfig)
  | shed (cfg : ShedTaskConfig)
  | actualPower (sourceTopics : List String)
  | siteDistribution (topics : PostureTopics) (spec : SourceMaps)

/-- An unknown operation drops the channel. -/
def spawnSynthetic (b : SyntheticBinding) (siteId : String) : Option Computation :=
  if b.operation = "weighted_mean" then
    some (.weightedMean (b.pairs.map fun pair => (substituteSiteId pair.topic siteId, pair.weight)))
  else
    match Operation.parse b.operation with
    | .ok operation => some (.operation operation (substituteAll b.inputs siteId))
    | .error _ => none

/-- The POI meter's topic stays a template. -/
def substituteGuard (guard : EnvelopeGuardConfig) (siteId : String) : EnvelopeGuardConfig :=
  { guard with
    importLimitTopic := substituteSiteId guard.importLimitTopic siteId
    exportLimitTopic := substituteSiteId guard.exportLimitTopic siteId
    activePowerTopic := substituteSiteId guard.activePowerTopic siteId }

def envelopeTask (deviceId : String) (source : CommandSource) (d : DistributeBinding)
    (siteId : String) : EnvelopeTaskConfig where
  deviceId := deviceId
  channelKey := source.key
  guard := (envelopeGuardConfig d).map fun guard => substituteGuard guard siteId
  binding := source.binding

def syntheticTasks (spec : SourceMaps) (siteId : String) : List Task :=
  spec.measurements.filterMap fun measurement =>
    match measurement with
    | .synthetic b => (spawnSynthetic b siteId).map Task.synthetic
    | .polled => none

def envelopeTasks (spec : SourceMaps) (siteId : String) : List Task :=
  spec.commands.filterMap fun command =>
    match command.2.binding with
    | .distribute d => some (.envelope (envelopeTask command.1 command.2 d siteId))
    | _ => none

def storage (spec : SourceMaps) : List DistributeBinding :=
  spec.commands.filterMap fun command =>
    match command.2.binding with
    | .distribute d => if (envelopeGuardConfig d).isSome then some d else none
    | _ => none

def shedConfigs (spec : SourceMaps) (siteId : String) : List ShedTaskConfig :=
  spec.commands.filterMap fun command =>
    match command.2.binding with
    | .powerCap p => ShedTaskConfig.fromBinding command.1 command.2.key p siteId
    | _ => none

def shedTasks (spec : SourceMaps) (siteId : String) : List Task :=
  (ShedTaskConfig.perPoi (shedConfigs spec siteId)).map fun c =>
    .shed { c with storage := storage spec }

def postureTopics (siteId : String) : PostureTopics where
  eventActive := eventActiveTopic siteId
  targetPresent := targetSetpointPresentTopic siteId
  target := targetActivePowerTopic siteId

def spawnTaskSet (spec : SourceMaps) (siteId : String) : List Task :=
  syntheticTasks spec siteId ++ envelopeTasks spec siteId ++ shedTasks spec siteId ++
    [.actualPower (collectDerDispatchActivePowerTopics spec siteId),
      .siteDistribution (postureTopics siteId) spec]

/-! What each task looks up -/

def limitReads (children : List ChildAllocation) (siteId : String) : List String :=
  children.flatMap fun child =>
    [limitTopic siteId child.deviceId true, limitTopic siteId child.deviceId false]

def sharesReads (d : DistributeBinding) (siteId : String) : List String :=
  (d.children.flatMap fun child =>
    [substituteSiteId child.operatingStateTopic siteId,
      substituteSiteId child.stateOfChargeTopic siteId]) ++
  limitReads d.children siteId ++ substituteAll d.operatorReserveTopic.toList siteId

def bindingReads (binding : ProtocolBinding) (siteId : String) : List String :=
  match binding with
  | .distribute d => sharesReads d siteId
  | _ => []

def rechargeReads (binding : ProtocolBinding) (deviceId siteId : String) : List String :=
  match binding with
  | .distribute d =>
      match d.readinessSocPercent, d.rechargePowerW with
      | some _, some _ => [eventActiveTopic siteId, moduleSocTopic siteId deviceId]
      | _, _ => []
  | _ => []

/-- `tick_once` substitutes every topic of the guard it was given. -/
def guardReads (guard : EnvelopeGuardConfig) (siteId : String) : List String :=
  substituteAll (EnvelopeGuardConfig.templates guard ++ guard.poiActivePowerTopic.toList) siteId

def envelopeReads (cfg : EnvelopeTaskConfig) (siteId : String) : List String :=
  (match cfg.guard with
    | some guard => rechargeReads cfg.binding cfg.deviceId siteId ++ guardReads guard siteId
    | none => []) ++
  energizeEnabledTopic siteId :: bindingReads cfg.binding siteId

def spareReads (modules : List DistributeBinding) (siteId : String) : List String :=
  modules.flatMap fun m =>
    substituteAll m.activePowerTopic.toList siteId ++ sharesReads m siteId

def shedReads (cfg : ShedTaskConfig) : List String :=
  [cfg.poiTopic, cfg.importLimitTopic, cfg.exportLimitTopic] ++ spareReads cfg.storage cfg.siteId

def boundsReads (channels : DeviceChannels) (siteId deviceId : String) : List String :=
  match channelOf channels deviceId channelKey with
  | some (.distribute d) => moduleSocTopic siteId deviceId :: limitReads d.children siteId
  | _ => []

def Computation.topics (computation : Computation) : List String :=
  match computation with
  | .operation _ inputTopics => inputTopics
  | .weightedMean pairs => pairs.map Prod.fst

/-- The commands of site distribution go through the handler, which looks at the cache for
whichever binding it resolves. -/
def Task.reads (siteId : String) (task : Task) : List String :=
  match task with
  | .synthetic computation => computation.topics
  | .envelope cfg => envelopeReads cfg siteId
  | .shed cfg => shedReads cfg
  | .actualPower sourceTopics => sourceTopics
  | .siteDistribution topics spec =>
      [topics.eventActive, topics.targetPresent, topics.target] ++
        (spec.commandSource.flatMap fun device => boundsReads spec.channels siteId device.1) ++
        spec.commands.flatMap fun command => bindingReads command.2.binding siteId

end EmsGateway.App
