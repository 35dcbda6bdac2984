import EmsGateway.Base

/-!
Max-min fair allocation of a module's setpoint across its children (`dispatch::allocation`).
`Filling` is the state of the clamp-and-redistribute loop over the indices of the eligible
children; `fillRound` is its body and `fill` the loop, with one unit of fuel for each child.
-/

namespace EmsGateway.Dispatch

inductive OperatingState where
  | standby
  | charging
  | discharging
  | fault
  | offline
  deriving DecidableEq, Repr

def OperatingState.isEligible (state : OperatingState) : Bool :=
  match state with
  | .fault => false
  | .offline => false
  | _ => true

structure ChildCapacity where
  deviceId : String
  operatingState : OperatingState
  headroom : ℚ
  stateOfCharge : ℚ
  deriving DecidableEq, Repr

inductive AllocationPolicy where
  | equalSplit
  | socWeighted
  deriving DecidableEq, Repr

def AllocationPolicy.parse (name : String) : Except String AllocationPolicy :=
  if name = "equal_split" then .ok .equalSplit
  else if name = "soc_weighted" then .ok .socWeighted
  else .error s!"unknown allocation policy: {name}"

def policyWeights (policy : AllocationPolicy) (eligible : List ChildCapacity) (sign : ℚ) :
    List ℚ :=
  match policy with
  | .equalSplit => List.replicate eligible.length 1
  | .socWeighted =>
      let raw := eligible.map fun c => if 0 < sign then c.stateOfCharge else 100 - c.stateOfCharge
      if raw.sum ≤ epsilon then List.replicate eligible.length 1 else raw

structure Filling where
  demand : ℚ
  opened : List ℕ
  shares : ℕ → ℚ

namespace Filling

def running (s : Filling) : Bool := decide (epsilon < s.demand) && !s.opened.isEmpty

def proposed (weight : ℕ → ℚ) (s : Filling) (i : ℕ) : ℚ :=
  let weightSum := (s.opened.map weight).sum
  s.demand * (if 0 < weightSum then weight i / weightSum else 1 / s.opened.length)

def isCapped (cap weight : ℕ → ℚ) (s : Filling) (i : ℕ) : Bool :=
  decide (cap i ≤ s.proposed weight i)

def fillRound (cap weight : ℕ → ℚ) (s : Filling) : Filling :=
  let capped := s.opened.filter (s.isCapped cap weight)
  let stillOpen := s.opened.filter fun i => !s.isCapped cap weight i
  if capped.isEmpty then
    { demand := 0
      opened := s.opened
      shares := fun i => if i ∈ s.opened then s.proposed weight i else s.shares i }
  else
    { demand := s.demand - (capped.map cap).sum
      opened := stillOpen
      shares := fun i => if i ∈ capped then cap i else s.shares i }

def fill (cap weight : ℕ → ℚ) : ℕ → Filling → Filling
  | 0, s => s
  | fuel + 1, s => if s.running then fill cap weight fuel (s.fillRound cap weight) else s

end Filling

def capOf (eligible : List ChildCapacity) (i : ℕ) : ℚ :=
  (eligible.map fun c => max c.headroom 0).getD i 0

def signOf (total : ℚ) : ℚ := if total < 0 then -1 else 1

def filled (total : ℚ) (eligible : List ChildCapacity) (policy : AllocationPolicy) : Filling :=
  let weights := policyWeights policy eligible (signOf total)
  Filling.fill (capOf eligible) (fun i => weights.getD i 0) eligible.length
    { demand := |total|
      opened := List.range eligible.length
      shares := fun _ => 0 }

def allocate (total : ℚ) (children : List ChildCapacity) (policy : AllocationPolicy) :
    List (String × ℚ) :=
  let eligible := children.filter fun c => c.operatingState.isEligible
  let shares := (filled total eligible policy).shares
  eligible.mapIdx fun i c => (c.deviceId, signOf total * shares i)

end EmsGateway.Dispatch
