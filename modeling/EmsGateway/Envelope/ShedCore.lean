import EmsGateway.Loto.Lockout

/-!
Compute shed: the controller of `envelope::shed`, what storage could still add
(`envelope::storage_spare`), and one tick of `envelope::shed_task` up to the caps it writes. A
cap written to a device's limit is kept under (device, command key).
-/

namespace EmsGateway.Envelope

open EmsGateway.Asyncapi EmsGateway.Dispatch EmsGateway.Library EmsGateway.Loto

/-! `shed` -/

def shrinkDeadband : ℚ := 1 / 1000

def stepPercent : ℚ := 1 / 10

/-- `f64::round`: half away from zero. -/
def roundHalfAway (x : ℚ) : ℤ := if 0 ≤ x then ⌊x + 1 / 2⌋ else -⌊-x + 1 / 2⌋

def quantize (current target : ℚ) : ℚ :=
  let steps : ℤ := ⌈(target - current) / stepPercent⌉
  roundHalfAway ((current + steps * stepPercent) * 10) / 10

structure ShedTick where
  poiActivePower : ℚ
  importLimit : ℚ
  exportLimit : ℚ
  requestedPercent : ℚ
  fleetMaxW : ℚ
  fleetMinW : ℚ
  storageSpareW : ℚ
  dt : Duration
  deriving DecidableEq, Repr

structure ShedController where
  config : EnvelopeConfig
  percent : Option ℚ
  overFor : Duration
  clearFor : Duration
  lastOver : Option ℚ
  deriving DecidableEq, Repr

namespace ShedController

def new (config : EnvelopeConfig) : ShedController := ⟨config, none, 0, 0, none⟩

def reset (c : ShedController) : ShedController :=
  { c with overFor := 0, clearFor := 0, lastOver := none }

def confirm (c : ShedController) (percent : ℚ) : ShedController :=
  { c with percent := some percent }

def current (c : ShedController) (t : ShedTick) : ℚ :=
  min (c.percent.getD t.requestedPercent) t.requestedPercent

/-- What the tick steers to: `none` where the source returns early, before it looks at the
target. -/
def target (c : ShedController) (t : ShedTick) : ShedController × Option ℚ :=
  let current := c.current t
  let wattsToPercent := 100 / t.fleetMaxW
  let step := c.config.rampRatePerSec * 100 * Duration.asSecs t.dt
  let overLimit := t.poiActivePower - t.importLimit
  let exported := -t.poiActivePower - t.exportLimit
  let headroom := t.importLimit - t.poiActivePower - c.config.hysteresisMargin * t.fleetMaxW
  if 0 < exported then (c.reset, some (current + min (exported * wattsToPercent) step))
  else if 0 < overLimit then
    let storageClosing :=
      match c.lastOver with
      | some previous => decide (shrinkDeadband * t.fleetMaxW < previous - overLimit)
      | none => false
    let overFor := c.overFor + t.dt
    let counting := { c with clearFor := 0, lastOver := some overLimit, overFor := overFor }
    let storageSpent := decide (t.storageSpareW < c.config.hysteresisMargin * t.fleetMaxW)
    if !storageSpent && decide (overFor < c.config.hysteresisDwell) then
      (if storageClosing then { counting with overFor := 0 } else counting, none)
    else (counting, some (current - min (overLimit * wattsToPercent) step))
  else if 0 < headroom ∧ current < t.requestedPercent then
    let clearFor := c.clearFor + t.dt
    let clearing := { c with overFor := 0, clearFor := clearFor }
    if clearFor < c.config.hysteresisDwell then (clearing, none)
    else (clearing, some (current + min (headroom * wattsToPercent) step))
  else (c.reset, some current)

/-- `clamp` panics on bounds the wrong way round, which a fleet without watts has too; such a
tick proposes nothing. Nor does it here over no watts with a negative minimum, where the source
clamps from `-inf` up and goes on. -/
def tick (c : ShedController) (t : ShedTick) : ShedController × Option ℚ :=
  let current := c.current t
  match c.target t with
  | (next, none) => (next, none)
  | (next, some target) =>
      let floor := t.fleetMinW * (100 / t.fleetMaxW)
      if t.fleetMaxW = 0 ∨ t.requestedPercent < floor then (next, none)
      else
        let proposed := max floor (min (quantize current target) t.requestedPercent)
        (next, if stepPercent / 2 ≤ |proposed - current| then some proposed else none)

end ShedController

/-! `storage_spare` -/

def moduleSpareW (m : DistributeBinding) (siteId : String) (cache : InputCache) (now : Instant)
    (locked : Finset String) : ℚ :=
  match m.activePowerTopic with
  | none => 0
  | some topic =>
      match reading cache (substituteSiteId topic siteId) with
      | none => 0
      | some activeW =>
          let rated := m.powerMax.getD (m.children.map ChildAllocation.powerMax).sum
          let deliverable :=
            match computeShares m rated siteId cache now locked with
            | .ok shares => delivered shares
            | .error _ => 0
          max (deliverable - activeW) 0

def spareW (modules : List DistributeBinding) (poiTopic siteId : String) (cache : InputCache)
    (now : Instant) (locked : Finset String) : ℚ :=
  let onPoi := modules.filter fun m =>
    match m.poiActivePowerTopic with
    | some topic => decide (substituteSiteId topic siteId = poiTopic)
    | none => false
  (onPoi.map fun m => moduleSpareW m siteId cache now locked).sum

/-! `shed_task` -/

structure ShedTaskConfig where
  modules : List CapModule
  control : EnvelopeConfig
  poiTopic : String
  importLimitTopic : String
  exportLimitTopic : String
  storage : List DistributeBinding
  siteId : String

def ShedTaskConfig.children (cfg : ShedTaskConfig) : List CapChild :=
  cfg.modules.flatMap fun m => m.binding.children

def shedDt (lastPoi : Option Instant) (receivedAt : Instant) : Option Duration :=
  match lastPoi with
  | some previous => if receivedAt ≤ previous then none else some (receivedAt - previous)
  | none => some (Duration.fromSecs 1)

def shedInputs (cfg : ShedTaskConfig) (cache : InputCache) (storageSpareW : ℚ)
    (lastPoi : Option Instant) : Option (ShedTick × Instant) := do
  let (poiValue, receivedAt) ← cache cfg.poiTopic
  let poi ← asNumber poiValue
  let importLimit ← reading cache cfg.importLimitTopic
  let exportLimit ← reading cache cfg.exportLimitTopic
  let dt ← shedDt lastPoi receivedAt
  return ({
    poiActivePower := poi
    importLimit := importLimit
    exportLimit := exportLimit
    requestedPercent := 100
    fleetMaxW := (cfg.children.map CapChild.maxW).sum
    fleetMinW := (cfg.children.map CapChild.minW).sum
    storageSpareW := storageSpareW
    dt := dt }, receivedAt)

end EmsGateway.Envelope
