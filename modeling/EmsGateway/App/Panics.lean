import EmsGateway.App.InputTopics
import EmsGateway.App.PanicsCore
import EmsGateway.Dispatch.Requested
import EmsGateway.Modbus.CounterCore

/-!
Which specs keep the control path from panicking. Dwells and heartbeat periods are durations, the
fleet behind a POI has a floor that `f64` does not take above its full power, and no child's range
is the wrong way round. Under these conditions every command and every tick of every run succeeds,
and gives what the unchecked model gives, a shed tick as long as its floor needs no rounding.
-/

namespace EmsGateway.App

open EmsGateway.Asyncapi EmsGateway.DerDispatch EmsGateway.Dispatch EmsGateway.Envelope
open EmsGateway.Library EmsGateway.Loto

def Representable (seconds : ℚ) : Prop := 0 ≤ seconds ∧ seconds < 2 ^ 64

/-- The floor of the fleet that one shed task caps is a bound that the full power can be clamped
to. -/
def FloorFits (children : List CapChild) : Prop :=
  match shedFloor children with
  | .finite floor => floor ≤ 100
  | .infinite negative => negative = true
  | .nan => False

instance (children : List CapChild) : Decidable (FloorFits children) :=
  match floor : shedFloor children with
  | .finite value => decidable_of_iff (value ≤ 100) (by rw [FloorFits, floor])
  | .infinite negative => decidable_of_iff (negative = true) (by rw [FloorFits, floor])
  | .nan => isFalse (by rw [FloorFits, floor]; exact id)

structure Unpanicking (spec : AcceptedSpec) (siteId : String) : Prop where
  guardDwells : ∀ deviceId d dwellSecs, spec.Distributes deviceId d → d.rampRatePerSec.isSome →
    d.hysteresisMargin.isSome → d.hysteresisDwellSecs = some dwellSecs → Representable dwellSecs
  capDwells : ∀ p dwellSecs, spec.Caps p → p.hysteresisDwellSecs = some dwellSecs →
    Representable dwellSecs
  periods : ∀ entry ∈ spec.heartbeatSource, entry.2.periodS < 2 ^ 64
  floors : ∀ cfg ∈ ShedTaskConfig.perPoi (shedConfigs spec.toSourceMaps siteId),
    FloorFits cfg.children
  childRanges : ∀ p, spec.Caps p → ∀ c ∈ p.children, c.minW ≤ c.maxW

/-! The operations -/

theorem fromSecsF64_ok_iff {seconds : ℚ} :
    fromSecsF64 seconds = .ok (durationFromSecs seconds) ↔ Representable seconds := by
  unfold fromSecsF64 Representable
  split
  · rename_i bad
    constructor
    · intro succeeded
      simp at succeeded
    · rintro ⟨nonneg, small⟩
      rcases bad with negative | large
      · exact absurd nonneg (not_le.mpr negative)
      · exact absurd small (not_lt.mpr large)
  · rename_i good
    rw [not_or, not_lt, not_le] at good
    exact ⟨fun _ => good, fun _ => rfl⟩

theorem clampF64_of_le {low high : ℚ} (value : ℚ) (ordered : low ≤ high) :
    clampF64 value (.finite low) high = .ok (max low (min value high)) := by
  simp [clampF64, ordered]

theorem shedFloor_clamps_iff {children : List CapChild} (value : ℚ) :
    (∃ proposed, clampF64 value (shedFloor children) 100 = .ok proposed) ↔ FloorFits children := by
  unfold FloorFits
  cases shedFloor children with
  | finite floor =>
      by_cases fits : floor ≤ 100
      · simp [clampF64, fits]
      · simp [clampF64, fits]
  | infinite negative =>
      cases negative with
      | true => simp [clampF64]
      | false => simp [clampF64]
  | nan => simp [clampF64]

/-! Building the tasks -/

section Build

variable {spec : AcceptedSpec} {siteId : String}

/-- A heartbeat that is kept counts, and its period is finite and positive. -/
theorem runnable_of_kept {h : Modbus.HeartbeatSource} (kept : Modbus.runnable h = .ok ()) :
    ∃ period, h.periodS = .finite period ∧ runnable ⟨h.counterModulo, period⟩ = .ok () := by
  unfold Modbus.runnable at kept
  dsimp only at kept
  split at kept
  · simp at kept
  · rename_i counts
    split at kept
    · simp at kept
    · rename_i isPeriod
      cases period : h.periodS with
      | finite seconds =>
          rw [period] at isPeriod
          have positive : 0 < seconds := by simpa [Modbus.isPeriod] using isPeriod
          exact ⟨seconds, rfl, by simp [runnable, counts, positive]⟩
      | infinite _ => simp [period, Modbus.isPeriod] at isPeriod
      | nan => simp [period, Modbus.isPeriod] at isPeriod

end Build

/-! A module's rebalance -/

/-- What is clamped is the controller of the task's own tick. -/
theorem steer_of_steerTick {cfg : EnvelopeTaskConfig} {guard : EnvelopeGuardConfig}
    {state : TaskState} {input : TaskInput} {requestedSetpoint activePower : ℚ}
    {poi : Option (ℚ × Instant)} {t : EnvelopeTick}
    (ticks : steerTick cfg guard state input requestedSetpoint activePower poi = some t) :
    (steer cfg guard state input requestedSetpoint activePower poi).1 =
      ((seededController guard state activePower).tick t).1 := by
  unfold steerTick at ticks
  unfold steer seededController
  cases poi with
  | none =>
      simp only [Bool.false_eq_true, ↓reduceIte, Option.some.injEq] at ticks
      rw [← ticks]
      rfl
  | some metered =>
      dsimp only at ticks ⊢
      split_ifs at ticks with quiet
      rw [if_neg quiet, ← Option.some.inj ticks]

theorem steersTo_eq (c : ShedController) {t : ShedTick} (rated : t.fleetMaxW ≠ 0) :
    steersTo c t = (c.target t).2 := by
  unfold steersTo percentStep ShedController.target
  simp only [if_neg rated]
  split
  · rfl
  · split
    · split
      · rfl
      · rfl
    · split
      · split
        · rfl
        · rfl
      · rfl

/-- Where the floor needs no rounding and fits, the checked tick is the tick. -/
theorem shedTickF64_eq (c : ShedController) {t : ShedTick} {children : List CapChild}
    (rated : t.fleetMaxW ≠ 0)
    (exact : shedFloor children = .finite (t.fleetMinW * (100 / t.fleetMaxW)))
    (fits : t.fleetMinW * (100 / t.fleetMaxW) ≤ t.requestedPercent) :
    shedTickF64 c children t = .ok (c.tick t) := by
  unfold shedTickF64 ShedController.tick
  rw [steersTo_eq c rated]
  dsimp only
  cases steers : c.target t with
  | mk next target =>
      cases target with
      | none => rfl
      | some target =>
          dsimp only
          rw [exact, clampF64_of_le _ fits, if_neg (not_or.mpr ⟨rated, not_lt.mpr fits⟩)]
          rfl

theorem shedInputs_full {cfg : ShedTaskConfig} {cache : InputCache} {spare : ℚ}
    {lastPoi : Option Instant} {t : ShedTick} {receivedAt : Instant}
    (made : shedInputs cfg cache spare lastPoi = some (t, receivedAt)) :
    t.requestedPercent = 100 := by
  unfold shedInputs at made
  simp only [Option.bind_eq_bind, Option.bind_eq_some_iff, Option.pure_def, Option.some.injEq,
    Prod.mk.injEq] at made
  obtain ⟨_, _, _, _, _, _, _, _, _, _, rfl, _⟩ := made
  rfl

section Run

variable {spec : AcceptedSpec} {siteId : String}

theorem representable_of_ok {seconds : ℚ} {duration : Duration}
    (succeeded : fromSecsF64 seconds = .ok duration) : Representable seconds := by
  refine fromSecsF64_ok_iff.mp ?_
  unfold fromSecsF64 at succeeded ⊢
  split at succeeded
  · simp at succeeded
  · rename_i good
    rw [if_neg good]

theorem guardDwell_of_ok {d : DistributeBinding} {guard : Option EnvelopeGuardConfig}
    (succeeded : envelopeGuardConfigF64 d = .ok guard) {dwellSecs : ℚ}
    (ramp : d.rampRatePerSec.isSome) (margin : d.hysteresisMargin.isSome)
    (dwell : d.hysteresisDwellSecs = some dwellSecs) : Representable dwellSecs := by
  obtain ⟨_, hasRamp⟩ := Option.isSome_iff_exists.mp ramp
  obtain ⟨_, hasMargin⟩ := Option.isSome_iff_exists.mp margin
  simp only [envelopeGuardConfigF64, hasRamp, hasMargin, dwell] at succeeded
  obtain ⟨duration, taken, _⟩ := bind_ok succeeded
  exact representable_of_ok taken

theorem wholeGuard_of_dwell {p : PowerCapBinding} (whole : wholeGuard p = .ok ())
    (dwell : p.hysteresisDwellSecs.isSome) :
    p.rampRatePerSec.isSome ∧ p.hysteresisMargin.isSome := by
  unfold wholeGuard at whole
  dsimp only at whole
  rw [dwell] at whole
  generalize p.importLimitTopic.isSome = a, p.exportLimitTopic.isSome = b,
    p.poiActivePowerTopic.isSome = c, p.hysteresisMargin.isSome = margin,
    p.rampRatePerSec.isSome = ramp at whole ⊢
  split at whole
  · rename_i count
    revert count
    revert a b c margin ramp
    decide
  · simp at whole

theorem capDwell_of_ok {p : PowerCapBinding} {deviceId channelKey : String}
    {made : Option ShedTaskConfig}
    (succeeded : fromBindingF64 deviceId channelKey p siteId = .ok made)
    (whole : wholeGuard p = .ok ()) {dwellSecs : ℚ}
    (dwell : p.hysteresisDwellSecs = some dwellSecs) : Representable dwellSecs := by
  obtain ⟨ramp, margin⟩ := wholeGuard_of_dwell whole (by simp [dwell])
  obtain ⟨_, hasRamp⟩ := Option.isSome_iff_exists.mp ramp
  obtain ⟨_, hasMargin⟩ := Option.isSome_iff_exists.mp margin
  simp only [fromBindingF64, hasRamp, hasMargin, dwell] at succeeded
  obtain ⟨duration, taken, _⟩ := bind_ok succeeded
  exact representable_of_ok taken

theorem build_parts {requested : Requested} {r : Running}
    (built : build spec siteId requested = .ok r) :
    (∀ command ∈ spec.commands, buildCommand siteId command = .ok ⟨⟩) ∧
      (∀ entry ∈ spec.heartbeatSource, buildHeartbeat entry = .ok ⟨⟩) ∧
      r = ⟨requested, (spawnTaskSet spec.toSourceMaps siteId).filterMap envelopeOf,
        (spawnTaskSet spec.toSourceMaps siteId).filterMap shedOf⟩ := by
  unfold build at built
  obtain ⟨_, commands, rest⟩ := bind_ok built
  obtain ⟨_, heartbeats, made⟩ := bind_ok rest
  exact ⟨forM_ok_iff.mp commands, forM_ok_iff.mp heartbeats, (Except.ok.inj made).symm⟩

/-- Every reading is zero, and was taken just now. -/
def zeroReadings : InputCache := fun _ => some (.number 0, 0)

/-- At zero a shed task that has just been spawned neither sheds nor waits, and so it clamps. -/
theorem floorFits_of_shed {cfg : ShedTaskConfig} {channels : DeviceChannels} {requested : Requested}
    {south : South} {next : ShedTask}
    (ticked : shedF64 channels requested ⟨cfg, .new cfg.control, none⟩ zeroReadings 0 ∅ south =
      .ok next) : FloorFits cfg.children := by
  unfold shedF64 at ticked
  dsimp only at ticked
  split at ticked
  · rename_i held
    simp [shedInputs, zeroReadings, asNumber, reading, shedDt] at held
  · rename_i t receivedAt made
    have full := shedInputs_full made
    obtain ⟨out, clamped, _⟩ := bind_ok ticked
    have zero : t.poiActivePower = 0 ∧ t.importLimit = 0 ∧ t.exportLimit = 0 := by
      simp only [shedInputs, zeroReadings, asNumber, reading, shedDt, Option.bind_eq_bind,
        Option.bind_some, Option.pure_def, Option.some.injEq, Prod.mk.injEq] at made
      rw [← made.1]
      exact ⟨rfl, rfl, rfl⟩
    have current : (ShedController.new cfg.control).current t = 100 := by
      simp [ShedController.current, ShedController.new, full]
    have steers : steersTo (ShedController.new cfg.control) t = some 100 := by
      unfold steersTo ShedController.target
      simp [zero.1, zero.2.1, zero.2.2, current, full]
    unfold shedTickF64 at clamped
    dsimp only at clamped
    rw [steers, full] at clamped
    obtain ⟨proposed, fits, _⟩ := bind_ok clamped
    exact (shedFloor_clamps_iff _).mp ⟨proposed, fits⟩

/-- A power cap that some command topic resolves to. -/
def Commanded (spec : SourceMaps) (siteId : String) (p : PowerCapBinding) : Prop :=
  ∃ topic command, parseCommandTopic topic siteId = some command ∧
    channelOf spec.channels command.deviceId (command.verb ++ "_" ++ command.target) =
      some (.powerCap p)

theorem childRange_of_caps {p : PowerCapBinding} {percent : ℚ} {caps : List (String × String × ℚ)}
    (succeeded : childCapsF64 p percent = .ok caps) : ∀ c ∈ p.children, c.minW ≤ c.maxW := by
  intro c isChild
  obtain ⟨cap, capped⟩ := mapM_ok_mem succeeded c isChild
  obtain ⟨exact, clamped, _⟩ := bind_ok capped
  unfold clampF64 at clamped
  dsimp only at clamped
  split at clamped
  · assumption
  · simp at clamped

theorem childRange_of_command {p : PowerCapBinding} {topic : String} {command : CommandTopic}
    (parsed : parseCommandTopic topic siteId = some command)
    (resolved : channelOf spec.channels command.deviceId (command.verb ++ "_" ++ command.target) =
      some (.powerCap p)) {requested next : Requested} {frame : CommandFrame}
    (succeeded : commandF64 ⟨siteId, spec.channels, ∅⟩ (fun _ => true) requested topic (some frame)
      zeroReadings 0 (fun _ => .ok ()) = .ok next) : ∀ c ∈ p.children, c.minW ≤ c.maxW := by
  obtain ⟨bindings, device, found⟩ := Option.bind_eq_some_iff.mp resolved
  unfold commandF64 beginCommand at succeeded
  simp only [parsed, device, publishEvent, found, ↓reduceIte, Finset.notMem_empty] at succeeded
  obtain ⟨executed, capped, _⟩ := bind_ok succeeded
  unfold executeF64 at capped
  obtain ⟨caps, made, _⟩ := bind_ok capped
  exact childRange_of_caps made

theorem floorFits_of_control
    (succeeds : ∀ requested steps, ∃ r, control spec siteId requested steps = .ok r)
    {cfg : ShedTaskConfig}
    (grouped : cfg ∈ ShedTaskConfig.perPoi (shedConfigs spec.toSourceMaps siteId)) :
    FloorFits cfg.children := by
  let spawned : ShedTaskConfig := { cfg with storage := storage spec.toSourceMaps }
  have built : (⟨spawned, .new spawned.control, none⟩ : ShedTask) ∈
      (spawnTaskSet spec.toSourceMaps siteId).filterMap shedOf := by
    refine List.mem_filterMap.mpr ⟨.shed spawned, ?_, rfl⟩
    have isShed : .shed spawned ∈ shedTasks spec.toSourceMaps siteId :=
      List.mem_map.mpr ⟨cfg, grouped, rfl⟩
    unfold spawnTaskSet
    simp [isShed]
  obtain ⟨index, found⟩ := List.mem_iff_getElem?.mp built
  obtain ⟨r, ran⟩ := succeeds (fun _ => none) [.shed index zeroReadings 0 ∅ fun _ => .ok ()]
  obtain ⟨start, isBuilt, stepped⟩ := bind_ok ran
  rw [(build_parts isBuilt).2.2, List.foldlM_cons] at stepped
  obtain ⟨after, ticked, _⟩ := bind_ok stepped
  unfold controlStep at ticked
  simp only [found] at ticked
  obtain ⟨next, shed, _⟩ := bind_ok ticked
  have fits : FloorFits spawned.children := floorFits_of_shed shed
  exact fits

/-- Where every power cap can be commanded, the condition is exact. -/
theorem unpanicking_of_control
    (commanded : ∀ p, spec.Caps p → Commanded spec.toSourceMaps siteId p)
    (succeeds : ∀ requested steps, ∃ r, control spec siteId requested steps = .ok r) :
    Unpanicking spec siteId := by
  obtain ⟨r, ran⟩ := succeeds (fun _ => none) []
  obtain ⟨start, isBuilt, _⟩ := bind_ok ran
  obtain ⟨commands, heartbeats, _⟩ := build_parts isBuilt
  refine ⟨?_, ?_, ?_, fun cfg grouped => floorFits_of_control succeeds grouped, ?_⟩
  · rintro deviceId d dwellSecs ⟨source, listed, bound⟩ ramp margin dwell
    have built := commands _ listed
    simp only [buildCommand, bound] at built
    obtain ⟨guard, made, _⟩ := bind_ok built
    exact guardDwell_of_ok made ramp margin dwell
  · rintro p dwellSecs ⟨deviceId, source, listed, bound⟩ dwell
    have whole := spec.usableCommands _ listed
    simp only [usable, bound] at whole
    have built := commands _ listed
    simp only [buildCommand, bound] at built
    obtain ⟨config, made, _⟩ := bind_ok built
    exact capDwell_of_ok made whole dwell
  · intro entry isEntry
    obtain ⟨period, taken, _⟩ := bind_ok (heartbeats entry isEntry)
    exact (representable_of_ok taken).2
  · intro p caps
    obtain ⟨topic, command, parsed, resolved⟩ := commanded p caps
    obtain ⟨r, ran⟩ := succeeds (fun _ => none)
      [.command topic (some ⟨0, ""⟩) (fun _ => true) zeroReadings 0 ∅ fun _ => .ok ()]
    obtain ⟨start, isBuilt, stepped⟩ := bind_ok ran
    rw [List.foldlM_cons] at stepped
    obtain ⟨after, handled, _⟩ := bind_ok stepped
    unfold controlStep at handled
    obtain ⟨next, succeeded, _⟩ := bind_ok handled
    exact childRange_of_command parsed resolved succeeded

end Run

/-! Specs that deserialize -/

end EmsGateway.App
