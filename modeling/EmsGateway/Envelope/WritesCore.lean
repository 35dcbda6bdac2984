import EmsGateway.Base

/-!
Which child writes a tick sends: `dispatch::write_order` (shrinks before growth, and growth held
back one tick in a handoff), `envelope::poi_gate` (each POI reading used once, the approach held
while a handoff is in flight) and `envelope::writes` (what each child last got).
-/

namespace EmsGateway.Envelope

abbrev Shares := List (String × ℚ)

abbrev LastWritten := String → Option ℚ

/-! `write_order` -/

def lastMagnitude (last : LastWritten) (id : String) : ℚ :=
  match last id with
  | some previous => |previous|
  | none => 0

def growth (last : LastWritten) (share : String × ℚ) : ℚ :=
  |share.2| - lastMagnitude last share.1

def reductionsFirst (changed : Shares) (last : LastWritten) : Shares :=
  changed.insertionSort fun a b => growth last a ≤ growth last b

def handoffMinFraction : ℚ := 1 / 100

def materialShrink (last : LastWritten) (share : String × ℚ) : Bool :=
  decide (handoffMinFraction * lastMagnitude last share.1 < -growth last share)

def handoffBatch (changed : Shares) (last : LastWritten) (deferredLastTick : Bool) :
    Shares × Bool :=
  let shrinks := changed.any (materialShrink last)
  let grows := changed.any fun c => decide (0 < growth last c)
  if shrinks && grows && !deferredLastTick then
    (changed.filter fun c => decide (growth last c < 0), true)
  else (changed, false)

/-! `poi_gate` -/

def readingsAfterGrowth : ℕ := 2

inductive Handoff where
  | idle
  | deferred
  | growthWritten (since : Instant) (seen : ℕ)
  deriving DecidableEq, Repr

structure PoiGate where
  lastUsed : Option Instant
  handoff : Handoff
  deriving DecidableEq, Repr

namespace PoiGate

def new : PoiGate := ⟨none, .idle⟩

def progress (handoff : Handoff) (receivedAt : Instant) (fresh : Bool) : Handoff :=
  match handoff with
  | .growthWritten since seen =>
      if fresh ∧ since < receivedAt then
        if readingsAfterGrowth ≤ seen + 1 then .idle else .growthWritten since (seen + 1)
      else .growthWritten since seen
  | other => other

def take (gate : PoiGate) (receivedAt : Instant) : PoiGate × Bool × Bool :=
  let fresh := decide (gate.lastUsed ≠ some receivedAt)
  let handoff := progress gate.handoff receivedAt fresh
  (⟨some receivedAt, handoff⟩, fresh, decide (handoff ≠ .idle))

def growthDeferred (gate : PoiGate) : PoiGate := { gate with handoff := .deferred }

def growthWritten (gate : PoiGate) (since : Instant) : PoiGate :=
  if gate.handoff = .deferred then { gate with handoff := .growthWritten since 0 } else gate

end PoiGate

/-! `writes` -/

structure WriteState where
  lastWritten : LastWritten
  deferredGrowth : Bool
  gate : PoiGate

structure Plan where
  writes : Shares
  completesHandoff : Bool
  deriving DecidableEq, Repr

namespace WriteState

def empty : WriteState := ⟨fun _ => none, false, .new⟩

def changed (state : WriteState) (shares : Shares) : Shares :=
  shares.filter fun share =>
    match state.lastWritten share.1 with
    | some previous => decide (epsilon ≤ |share.2 - previous|)
    | none => true

def ordered (state : WriteState) (changed : Shares) : WriteState × Shares :=
  if changed.isEmpty then (state, [])
  else
    let sorted := reductionsFirst changed state.lastWritten
    let batch := handoffBatch sorted state.lastWritten state.deferredGrowth
    let gate := if batch.2 then state.gate.growthDeferred else state.gate
    ({ state with deferredGrowth := batch.2, gate := gate }, batch.1)

def reasserts (state : WriteState) (ids : List String) (writes : Shares) : Shares :=
  (ids.filter fun id => writes.all fun write => write.1 ≠ id).filterMap fun id =>
    (state.lastWritten id).map fun last => (id, last)

def plan (state : WriteState) (shares : Shares) : WriteState × Option Plan :=
  let (next, batch) := state.ordered (state.changed shares)
  let writes := batch ++ state.reasserts (shares.map Prod.fst) batch
  if writes.isEmpty then (next, none)
  else (next, some ⟨writes, state.deferredGrowth && !next.deferredGrowth⟩)

def landed (state : WriteState) (plan : Plan) (now : Instant) : WriteState :=
  { state with
    gate := if plan.completesHandoff then state.gate.growthWritten now else state.gate
    lastWritten := plan.writes.foldl
      (fun last write => Function.update last write.1 (some write.2)) state.lastWritten }

end WriteState

end EmsGateway.Envelope
