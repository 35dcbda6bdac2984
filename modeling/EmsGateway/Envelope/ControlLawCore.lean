import EmsGateway.Base
import EmsGateway.Library.Unbounded

/-!
The envelope controller: `poi_servo` (bounds from a POI reading), `bounds` (one tick's bounds,
with or without a POI meter) and `control_law` (clamp on violation, ramp on recovery).
Positive output is discharge, positive POI flow is import. An absent limit is an infinite
headroom, so a ceiling is a `WithTop ℚ`, a floor a `WithBot ℚ`, and neither is ever infinite
on its wrong side.
-/

namespace EmsGateway.Envelope

open EmsGateway.Library

/-! `poi_servo`. `servoBounds` is its `bounds`; `backOffRate` is the violation branch of `step`
and `lowered u down` is `u - down`. -/

def approachGainPerSec : ℚ := 1 / 10

def violationGainPerSec : ℚ := 3 / 10

structure Limit where
  now : Option ℚ
  prev : Option ℚ
  deriving DecidableEq, Repr

structure Bounds where
  ceiling : WithTop ℚ
  floor : WithBot ℚ
  headroomExport : WithTop ℚ
  headroomImport : WithTop ℚ
  jumped : Bool

def headroom (signedPoi : ℚ) (limit : Option ℚ) : WithTop ℚ :=
  match limit with
  | none => ⊤
  | some l => ((signedPoi + l : ℚ) : WithTop ℚ)

def jump (signedPoi : ℚ) (limit : Limit) (room : WithTop ℚ) : ℚ :=
  let before := headroom signedPoi limit.prev
  max (capAt before 0 - capAt room 0) 0

def backOffRate (excess : ℚ) (opposite : WithTop ℚ) : ℚ :=
  max (capAt (opposite.map (approachGainPerSec * ·)) (violationGainPerSec * excess))
    (approachGainPerSec * excess)

/-- How far output may move toward one limit this tick. Without the limit its headroom is
infinite too, so both infinite cases are the early return. -/
def step (signedPoi : ℚ) (limit : Limit) (room opposite : WithTop ℚ) (dt : Duration) :
    WithTop ℚ :=
  match limit.now, room with
  | some _, (finite : ℚ) =>
      let jumped := jump signedPoi limit room
      let measured := finite + jumped
      let rate :=
        if 0 ≤ measured then approachGainPerSec * measured else -backOffRate (-measured) opposite
      ((rate * Duration.asSecs dt - jumped : ℚ) : WithTop ℚ)
  | _, _ => ⊤

def lowered (u : ℚ) (down : WithTop ℚ) : WithBot ℚ :=
  match down with
  | ⊤ => ⊥
  | (finite : ℚ) => ((u - finite : ℚ) : WithBot ℚ)

/-- Where floor and ceiling cross, a jump on the import side alone lifts the ceiling and
otherwise the floor gives way. Only finite bounds cross. -/
def uncross (floor : WithBot ℚ) (ceiling : WithTop ℚ) (importWins : Bool) :
    WithBot ℚ × WithTop ℚ :=
  match floor, ceiling with
  | (low : ℚ), (high : ℚ) =>
      if high < low then
        if importWins then ((low : WithBot ℚ), (low : WithTop ℚ))
        else ((high : WithBot ℚ), (high : WithTop ℚ))
      else ((low : WithBot ℚ), (high : WithTop ℚ))
  | floor, ceiling => (floor, ceiling)

def servoBounds (u pPoi : ℚ) (importSide exportSide : Limit) (dt : Duration) : Bounds :=
  let headroomExport := headroom pPoi exportSide.now
  let headroomImport := headroom (-pPoi) importSide.now
  let up := step pPoi exportSide headroomExport headroomImport dt
  let down := step (-pPoi) importSide headroomImport headroomExport dt
  let exportJumped := decide (0 < jump pPoi exportSide headroomExport)
  let importJumped := decide (0 < jump (-pPoi) importSide headroomImport)
  let crossed := uncross (lowered u down) ((u : WithTop ℚ) + up) (importJumped && !exportJumped)
  { ceiling := crossed.2
    floor := crossed.1
    headroomExport := headroomExport
    headroomImport := headroomImport
    jumped := exportJumped || importJumped }

/-! `inputs` -/

structure EnvelopeConfig where
  rampRatePerSec : ℚ
  hysteresisMargin : ℚ
  hysteresisDwell : Duration
  deriving DecidableEq, Repr

structure EnvelopeTick where
  importLimit : Option ℚ
  exportLimit : Option ℚ
  activePower : ℚ
  requestedSetpoint : ℚ
  poiActivePower : Option ℚ
  poiFresh : Bool
  holdApproach : Bool
  powerMin : ℚ
  powerMax : ℚ
  dt : Duration
  deriving DecidableEq, Repr

/-! `bounds`. `floorBelow` is `floor.min(ceiling)`; `forTick` is `for_tick`. -/

def floorBelow (floor : WithBot ℚ) (ceiling : WithTop ℚ) : WithBot ℚ :=
  match ceiling with
  | ⊤ => floor
  | (high : ℚ) => min floor (high : WithBot ℚ)

def holdApproach (u : ℚ) (b : Bounds) : Bounds :=
  let b :=
    if 0 ≤ u then { b with ceiling := min b.ceiling (u : WithTop ℚ) }
    else { b with floor := max b.floor (u : WithBot ℚ) }
  { b with floor := floorBelow b.floor b.ceiling }

def limitCeiling (exportLimit : Option ℚ) : WithTop ℚ :=
  match exportLimit with
  | none => ⊤
  | some e => (e : WithTop ℚ)

def limitFloor (importLimit : Option ℚ) : WithBot ℚ :=
  match importLimit with
  | none => ⊥
  | some i => ((-i : ℚ) : WithBot ℚ)

def forTick (u : ℚ) (prevLimits : Option ℚ × Option ℚ) (t : EnvelopeTick) : Bounds :=
  match t.poiActivePower with
  | some pPoi =>
      let dt := if t.poiFresh then t.dt else 0
      let b := servoBounds u pPoi ⟨t.importLimit, prevLimits.1⟩ ⟨t.exportLimit, prevLimits.2⟩ dt
      if t.holdApproach then holdApproach u b else b
  | none =>
      { ceiling := limitCeiling t.exportLimit
        floor := limitFloor t.importLimit
        headroomExport := headroom (-t.activePower) t.exportLimit
        headroomImport := headroom t.activePower t.importLimit
        jumped := false }

/-! `control_law`. `tick` updates the jump hold and the limit memory (`remember`) before any
branch returns; `skipsReading` says that the jump hold consumes this reading, `clear` that the
side the ramp moves toward has its margin. -/

def jumpHoldReadings : ℕ := 3

inductive Mode where
  | normal
  | constrained
  | ramping
  deriving DecidableEq, Repr

structure EnvelopeController where
  mode : Mode
  dwellElapsed : Duration
  currentOutput : ℚ
  config : EnvelopeConfig
  prevLimits : Option ℚ × Option ℚ
  jumpHold : ℕ
  deriving DecidableEq, Repr

namespace EnvelopeController

def new (config : EnvelopeConfig) (initialOutput : ℚ) : EnvelopeController :=
  { mode := .normal
    dwellElapsed := 0
    currentOutput := initialOutput
    config := config
    prevLimits := (none, none)
    jumpHold := 0 }

def write (c : EnvelopeController) (value : ℚ) : EnvelopeController × Option ℚ :=
  if |value - c.currentOutput| < epsilon then (c, none)
  else ({ c with currentOutput := value }, some value)

def skipsReading (c : EnvelopeController) (input : EnvelopeTick) : Bool :=
  decide (0 < c.jumpHold) && input.poiFresh

def tickBounds (c : EnvelopeController) (input : EnvelopeTick) : Bounds :=
  let held := if c.skipsReading input then { input with poiFresh := false } else input
  forTick c.currentOutput c.prevLimits held

def ceiling (c : EnvelopeController) (input : EnvelopeTick) : ℚ :=
  capAt (c.tickBounds input).ceiling input.powerMax

def floor (c : EnvelopeController) (input : EnvelopeTick) : ℚ :=
  min (raiseTo (c.tickBounds input).floor input.powerMin) (c.ceiling input)

def target (c : EnvelopeController) (input : EnvelopeTick) : ℚ :=
  clampTo input.requestedSetpoint (c.floor input) (c.ceiling input)

def remember (c : EnvelopeController) (input : EnvelopeTick) : EnvelopeController :=
  { c with
    jumpHold :=
      if (c.tickBounds input).jumped then jumpHoldReadings
      else if c.skipsReading input then c.jumpHold - 1
      else c.jumpHold
    prevLimits := (input.importLimit, input.exportLimit) }

def clear (c : EnvelopeController) (input : EnvelopeTick) : Bool :=
  if c.target input < c.currentOutput then
    decide (((c.config.hysteresisMargin * |input.powerMin| : ℚ) : WithTop ℚ) ≤
      (c.tickBounds input).headroomImport)
  else
    decide (((c.config.hysteresisMargin * input.powerMax : ℚ) : WithTop ℚ) ≤
      (c.tickBounds input).headroomExport)

def maxStep (c : EnvelopeController) (input : EnvelopeTick) (delta : ℚ) : ℚ :=
  let rated := if 0 ≤ delta then input.powerMax else |input.powerMin|
  c.config.rampRatePerSec * rated * Duration.asSecs input.dt

def signum (x : ℚ) : ℚ := if 0 ≤ x then 1 else -1

def ramp (c : EnvelopeController) (input : EnvelopeTick) (target : ℚ) :
    EnvelopeController × Option ℚ :=
  let delta := target - c.currentOutput
  let longest := c.maxStep input delta
  if |delta| ≤ longest then write { c with mode := .normal } target
  else write { c with mode := .ramping } (c.currentOutput + longest * signum delta)

def tick (c : EnvelopeController) (input : EnvelopeTick) : EnvelopeController × Option ℚ :=
  let b := c.tickBounds input
  let target := c.target input
  let next := c.remember input
  if b.headroomExport ≤ 0 ∨ b.headroomImport ≤ 0 then
    write { next with mode := .constrained, dwellElapsed := 0 } target
  else
    match c.mode with
    | .normal => write next target
    | .ramping => ramp next input target
    | .constrained =>
        if c.clear input then
          let dwelt := { next with dwellElapsed := next.dwellElapsed + input.dt }
          if c.config.hysteresisDwell ≤ dwelt.dwellElapsed then ramp dwelt input target
          else (dwelt, none)
        else ({ next with dwellElapsed := 0 }, none)

end EnvelopeController

end EmsGateway.Envelope
