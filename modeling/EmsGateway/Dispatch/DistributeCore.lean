import EmsGateway.Asyncapi.Bindings
import EmsGateway.Dispatch.AllocationCore
import EmsGateway.Inputs
import EmsGateway.Library.Outcomes

/-!
How a module's setpoint becomes one share per child: `dispatch::operating_state`,
`dispatch::rack_limits`, `dispatch::reserve` and `compute_shares` of `dispatch::distribute`.
The clock is read once, as `now`, for every reading that one call looks at. A locked-out child
is left out before anything of it is read, so it can neither fail the call nor get a share.
-/

namespace EmsGateway.Dispatch

open EmsGateway.Asyncapi EmsGateway.Library

/-! `operating_state`: the label typed publishing sends, or the register code. -/

/-- `f64::round` followed by `as i64`: half away from zero, saturating. -/
def roundToI64 (raw : ℚ) : ℤ :=
  let rounded := if 0 ≤ raw then ⌊raw + 1 / 2⌋ else -⌊-raw + 1 / 2⌋
  max (-2 ^ 63) (min rounded (2 ^ 63 - 1))

def operatingStateFromF64 (raw : ℚ) : Except String OperatingState :=
  let code := roundToI64 raw
  if code = 0 then .ok .standby
  else if code = 1 then .ok .charging
  else if code = 2 then .ok .discharging
  else if code = 3 then .ok .fault
  else if code = 4 then .ok .offline
  else .error s!"unknown operating_state value: {code}"

def operatingStateFromLabel (label : String) : Except String OperatingState :=
  if label = "STANDBY" then .ok .standby
  else if label = "CHARGING" then .ok .charging
  else if label = "DISCHARGING" then .ok .discharging
  else if label = "FAULT" then .ok .fault
  else if label = "OFFLINE" then .ok .offline
  else .error s!"unknown operating_state label: {label}"

def operatingState (value : Value) : Except String OperatingState :=
  match value with
  | .str label => operatingStateFromLabel label
  | .number raw => operatingStateFromF64 raw
  | .bool b => operatingStateFromF64 (if b then 1 else 0)
  | .other text => .error s!"operating_state is {text}"

/-! `rack_limits` -/

def staleAfter : Duration := Duration.fromSecs 5

def limitTopic (siteId deviceId : String) (charging : Bool) : String :=
  let name := if charging then "max_charge_power" else "max_discharge_power"
  s!"sites/{siteId}/devices/{deviceId}/measurements/{name}/watts"

def staticBound (c : ChildAllocation) (target : ℚ) : ℚ :=
  if target < 0 then |c.powerMin| else c.powerMax

def liveLimit (c : ChildAllocation) (target : ℚ) (siteId : String) (cache : InputCache)
    (now : Instant) : Option ℚ :=
  match cache (limitTopic siteId c.deviceId (decide (target < 0))) with
  | some (value, received) =>
      if elapsed now received ≤ staleAfter then asNumber value else none
  | none => none

def rackHeadroom (c : ChildAllocation) (target : ℚ) (siteId : String) (cache : InputCache)
    (now : Instant) : ℚ :=
  match liveLimit c target siteId cache now with
  | some limit => min (staticBound c target) (max limit 0)
  | none => staticBound c target

/-! `reserve` -/

def operatorReservePercent (binding : DistributeBinding) (siteId : String)
    (cache : InputCache) : Option ℚ := do
  let capacityWh ← binding.siteCapacityWh.filter fun c => decide (0 < c)
  let template ← binding.operatorReserveTopic
  let entry ← cache (substituteSiteId template siteId)
  let reserveWh ← asNumber entry.1
  return max 0 (min (reserveWh / capacityWh * 100) 100)

def effectiveFloorPercent (binding : DistributeBinding) (siteId : String)
    (cache : InputCache) : Option ℚ :=
  match binding.stateOfChargeFloorPercent, operatorReservePercent binding siteId cache with
  | some supplier, some operator => some (max supplier operator)
  | supplier, operator => supplier.or operator

/-! `distribute` -/

def stateEntry (c : ChildAllocation) (siteId : String) (cache : InputCache) : Option CacheEntry :=
  cache (substituteSiteId c.operatingStateTopic siteId)

def socEntry (c : ChildAllocation) (siteId : String) (cache : InputCache) : Option CacheEntry :=
  cache (substituteSiteId c.stateOfChargeTopic siteId)

/-- A rack that stopped reporting can't be steered blind: offline until it reports again. -/
def reportedState (now : Instant) (state soc : CacheEntry) : Except String OperatingState :=
  if staleAfter < elapsed now state.2 ∨ staleAfter < elapsed now soc.2 then .ok .offline
  else operatingState state.1

def resolveChild (c : ChildAllocation) (target : ℚ) (siteId : String) (cache : InputCache)
    (now : Instant) : Except String ChildCapacity := do
  let state ← okOr (stateEntry c siteId cache) s!"no cached operating_state for {c.deviceId}"
  let soc ← okOr (socEntry c siteId cache) s!"no cached state_of_charge for {c.deviceId}"
  let stateOfCharge ← okOr (asNumber soc.1) s!"state_of_charge for {c.deviceId}"
  let operatingState ← reportedState now state soc
  return {
    deviceId := c.deviceId
    operatingState := operatingState
    headroom := rackHeadroom c target siteId cache now
    stateOfCharge := stateOfCharge }

def applyReserveFloor (floor : Option ℚ) (child : ChildCapacity) (target : ℚ) : ChildCapacity :=
  match floor with
  | some percent =>
      if 0 < target ∧ child.stateOfCharge ≤ percent then { child with headroom := 0 } else child
  | none => child

def addMissing (shares : List (String × ℚ)) (child : ChildCapacity) : List (String × ℚ) :=
  if shares.all fun share => share.1 ≠ child.deviceId then shares ++ [(child.deviceId, 0)]
  else shares

def unlockedChildren (binding : DistributeBinding) (locked : Finset String) :
    List ChildAllocation :=
  binding.children.filter fun c => c.deviceId ∉ locked

def computeShares (binding : DistributeBinding) (target : ℚ) (siteId : String)
    (cache : InputCache) (now : Instant) (locked : Finset String) :
    Except String (List (String × ℚ)) := do
  let policy ← AllocationPolicy.parse binding.allocationPolicy
  let floor := effectiveFloorPercent binding siteId cache
  let children ← (unlockedChildren binding locked).mapM fun c => do
    let child ← resolveChild c target siteId cache now
    return applyReserveFloor floor child target
  return children.foldl addMissing (allocate target children policy)

end EmsGateway.Dispatch
