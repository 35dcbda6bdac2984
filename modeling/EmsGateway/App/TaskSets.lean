import EmsGateway.App.PanicsCore
import EmsGateway.App.SpecSwap

/-!
The task sets of a gateway over its life (`app::run`). On a topology beacon the loop cancels its
tasks, waits until each has ended, fetches the spec, swaps the device maps and spawns the new set; a
fetch that fails, or a spec that asks for credentials the gateway lacks, brings the old set back.
device-api, the beacons and the ends of the tasks are the steps of others. A spec goes with the
number of changes device-api had seen when it had it.
-/

namespace EmsGateway.App

open EmsGateway.Asyncapi EmsGateway.Library

/-- What `/asyncapi` serves. -/
structure Topology where
  accepted : AcceptedSpec
  deviceTrust : List (String × DeviceTrust)

def Topology.spec (topology : Topology) : AsyncApiSpec where
  commandSource := fun deviceId => topology.accepted.commandSource.lookup deviceId
  deviceTrust := topology.deviceTrust

/-- The tasks of `spawn_task_set`; the words of a device that the SunSpec heartbeat keeps are one
entry. -/
inductive SpawnedTask where
  | poller (deviceId : String)
  | control (task : Task)
  | heartbeat (deviceId : String)
  | commandWord (deviceId : String)

def isPolled (measurement : String × MeasurementBinding) : Bool :=
  match measurement.2 with
  | .polled => true
  | .synthetic _ => false

def bindsBit (command : String × CommandSource) : Bool :=
  match command.2.binding with
  | .sunspec (some _) => true
  | _ => false

def spawned (topology : Topology) (siteId : String) : List SpawnedTask :=
  let spec := topology.accepted
  ((spec.protocolSource.filter fun device => device.2.any isPolled).map fun device =>
      .poller device.1) ++
    (spawnTaskSet spec.toSourceMaps siteId).map .control ++
    (spec.heartbeatSource.map fun entry => .heartbeat entry.1) ++
    (spec.commandSource.filter fun device => device.2.any bindsBit).map fun device =>
      .commandWord device.1

namespace TaskSets

inductive Phase where
  | waiting
  | joining
  | fetching (reply : Option (ℕ × Topology))
  | applying (fresh : ℕ × Topology)
  | swapped (fresh : ℕ × Topology)
  | stopping
  | stopped

structure LiveTask where
  set : ℕ
  task : SpawnedTask

/-- `announced` is what device-api had when the last beacon came in, `asked` what had been announced
when the last fetch began. `kept` tells that the last reconcile brought the old set back. -/
structure Gateway where
  deviceApi : ℕ × Topology
  announced : ℕ
  unseen : Bool
  phase : Phase
  asked : ℕ
  current : ℕ × Topology
  kept : Bool
  maps : Topology
  set : ℕ
  cancelled : Bool
  alive : List LiveTask

inductive Step where
  | change (topology : Topology)
  | beacon
  | exit (index : ℕ)
  | notice
  | shutdown
  | joined
  | reply
  | fail
  | receive
  | swap
  | respawn

def spawn (siteId : String) (s : Gateway) (topology : ℕ × Topology) (kept : Bool) : Gateway :=
  { s with
    phase := .waiting
    current := topology
    kept := kept
    set := s.set + 1
    cancelled := false
    alive := (spawned topology.2 siteId).map fun task => ⟨s.set + 1, task⟩ }

/-- The boot's spec may be older than what device-api has once the gateway is subscribed. -/
def Gateway.boot (siteId : String) (deviceApi fetched : ℕ × Topology) : Gateway where
  deviceApi := deviceApi
  announced := fetched.1
  unseen := false
  phase := .waiting
  asked := fetched.1
  current := fetched
  kept := false
  maps := fetched.2
  set := 0
  cancelled := false
  alive := (spawned fetched.2 siteId).map fun task => ⟨0, task⟩

/-- A step that is not due changes nothing. A task may end before it is cancelled. -/
def step (creds : Option GatewayCredentials) (siteId : String) (s : Gateway) (input : Step) :
    Gateway :=
  match input, s.phase with
  | .change topology, _ => { s with deviceApi := (s.deviceApi.1 + 1, topology) }
  | .beacon, _ => { s with announced := s.deviceApi.1, unseen := true }
  | .exit index, _ => { s with alive := s.alive.eraseIdx index }
  | .notice, .waiting =>
      if s.unseen then { s with unseen := false, phase := .joining, cancelled := true } else s
  | .shutdown, .waiting => { s with phase := .stopping, cancelled := true }
  | .joined, .joining =>
      if s.alive.isEmpty then { s with phase := .fetching none, asked := s.announced } else s
  | .joined, .stopping => if s.alive.isEmpty then { s with phase := .stopped } else s
  | .reply, .fetching _ => { s with phase := .fetching (some s.deviceApi) }
  | .fail, .fetching _ => spawn siteId s s.current true
  | .receive, .fetching (some fresh) =>
      match validateTrustCredsAlignment fresh.2.spec creds with
      | .ok () => { s with phase := .applying fresh }
      | .error _ => spawn siteId s s.current true
  | .swap, .applying fresh => { s with phase := .swapped fresh, maps := fresh.2 }
  | .respawn, .swapped fresh => spawn siteId s fresh false
  | _, _ => s

/-! One set -/

def Phase.quiet (phase : Phase) : Prop :=
  match phase with
  | .waiting => False
  | .joining => False
  | .stopping => False
  | _ => True

/-- The maps of the commands are those of the running spec, but for the moment between the swap and
the new set. -/
structure OneSet (creds : Option GatewayCredentials) (siteId : String) (s : Gateway) : Prop where
  members : ∀ task ∈ s.alive, task.set = s.set ∧ task.task ∈ spawned s.current.2 siteId
  quiet : s.phase.quiet → s.alive = []
  running : s.cancelled = false ↔ s.phase = .waiting
  aligned : validateTrustCredsAlignment s.current.2.spec creds = .ok ()
  mapped : (∀ fresh, s.phase ≠ .swapped fresh) → s.maps = s.current.2
  fresh : ∀ fresh, s.phase = .applying fresh ∨ s.phase = .swapped fresh →
    validateTrustCredsAlignment fresh.2.spec creds = .ok ()
  swapped : ∀ fresh, s.phase = .swapped fresh → s.maps = fresh.2

section Steps

variable {creds : Option GatewayCredentials} {siteId : String} {s : Gateway}

theorem OneSet.spawn {topology : ℕ × Topology} {kept : Bool} (mapped : s.maps = topology.2)
    (aligned : validateTrustCredsAlignment topology.2.spec creds = .ok ()) :
    OneSet creds siteId (spawn siteId s topology kept) := by
  refine ⟨?_, fun quiet => quiet.elim, iff_of_true rfl rfl, aligned, fun _ => mapped, ?_, ?_⟩
  · intro task member
    obtain ⟨entry, isTask, rfl⟩ := List.mem_map.mp member
    exact ⟨rfl, isTask⟩
  · rintro fresh (⟨⟨⟩⟩ | ⟨⟨⟩⟩)
  · rintro fresh ⟨⟩

theorem OneSet.boot {deviceApi fetched : ℕ × Topology}
    (aligned : validateTrustCredsAlignment fetched.2.spec creds = .ok ()) :
    OneSet creds siteId (.boot siteId deviceApi fetched) := by
  refine ⟨?_, fun quiet => quiet.elim, iff_of_true rfl rfl, aligned, fun _ => rfl, ?_, ?_⟩
  · intro task member
    obtain ⟨entry, isTask, rfl⟩ := List.mem_map.mp member
    exact ⟨rfl, isTask⟩
  · rintro fresh (⟨⟨⟩⟩ | ⟨⟨⟩⟩)
  · rintro fresh ⟨⟩

theorem OneSet.exit (one : OneSet creds siteId s) (index : ℕ) :
    OneSet creds siteId { s with alive := s.alive.eraseIdx index } := by
  refine ⟨fun task member => one.members task (List.mem_of_mem_eraseIdx member), ?_, one.running,
    one.aligned, one.mapped, one.fresh, one.swapped⟩
  intro quiet
  have none := one.quiet quiet
  dsimp only
  rw [none, List.eraseIdx_nil]

theorem OneSet.cancelled (one : OneSet creds siteId s) (busy : s.phase ≠ .waiting) :
    s.cancelled = true := by
  rw [← Bool.not_eq_false]
  exact fun running => busy (one.running.mp running)

/-- The loop moves on with its tasks cancelled; where it needs quiet, none is left. -/
theorem OneSet.move (one : OneSet creds siteId s) (phase : Phase) (asked : ℕ) (unseen : Bool)
    {cancelled : Bool} (held : cancelled = true) (busy : phase ≠ .waiting)
    (quiet : phase.quiet → s.alive = []) (kept : ∀ fresh, s.phase ≠ .swapped fresh)
    (next : ∀ fresh, phase ≠ .swapped fresh)
    (fresh : ∀ fresh, phase = .applying fresh →
      validateTrustCredsAlignment fresh.2.spec creds = .ok ()) :
    OneSet creds siteId
      { s with phase := phase, asked := asked, unseen := unseen, cancelled := cancelled } := by
  refine ⟨one.members, quiet, iff_of_false (by simp [held]) busy, one.aligned,
    fun _ => one.mapped kept, ?_, fun other same => absurd same (next other)⟩
  rintro other (same | same)
  · exact fresh other same
  · exact absurd same (next other)

theorem OneSet.back (one : OneSet creds siteId s) (kept : ∀ fresh, s.phase ≠ .swapped fresh) :
    OneSet creds siteId (TaskSets.spawn siteId s s.current true) :=
  .spawn (one.mapped kept) one.aligned

theorem OneSet.swap (one : OneSet creds siteId s) {fresh : ℕ × Topology}
    (phase : s.phase = .applying fresh) :
    OneSet creds siteId { s with phase := .swapped fresh, maps := fresh.2 } := by
  refine ⟨one.members, fun _ => one.quiet (by simp [phase, Phase.quiet]),
    iff_of_false (by simp [one.cancelled, phase]) (by simp), one.aligned,
    fun other => absurd rfl (other fresh), ?_, ?_⟩
  · rintro other (⟨⟨⟩⟩ | ⟨⟨⟩⟩)
    exact one.fresh fresh (.inl phase)
  · rintro other ⟨⟩
    rfl

theorem OneSet.step (one : OneSet creds siteId s) (input : Step) :
    OneSet creds siteId (step creds siteId s input) := by
  unfold TaskSets.step
  split
  · exact ⟨one.members, one.quiet, one.running, one.aligned, one.mapped, one.fresh, one.swapped⟩
  · exact ⟨one.members, one.quiet, one.running, one.aligned, one.mapped, one.fresh, one.swapped⟩
  · exact one.exit _
  · rename_i phase
    split
    · exact one.move .joining s.asked false rfl (by simp) False.elim (by simp [phase]) (by simp)
        (by simp)
    · exact one
  · rename_i phase
    exact one.move .stopping s.asked s.unseen rfl (by simp) False.elim (by simp [phase]) (by simp)
      (by simp)
  · rename_i phase
    split
    · rename_i none
      exact one.move (.fetching .none) s.announced s.unseen (one.cancelled (by simp [phase]))
        (by simp) (fun _ => List.isEmpty_iff.mp none) (by simp [phase]) (by simp) (by simp)
    · exact one
  · rename_i phase
    split
    · rename_i none
      exact one.move .stopped s.asked s.unseen (one.cancelled (by simp [phase])) (by simp)
        (fun _ => List.isEmpty_iff.mp none) (by simp [phase]) (by simp) (by simp)
    · exact one
  · rename_i phase
    exact one.move (.fetching _) s.asked s.unseen (one.cancelled (by simp [phase])) (by simp)
      (fun _ => one.quiet (by simp [phase, Phase.quiet])) (by simp [phase]) (by simp) (by simp)
  · rename_i phase
    exact one.back (by simp [phase])
  · rename_i fresh phase
    split
    · rename_i aligned
      refine one.move (.applying fresh) s.asked s.unseen (one.cancelled (by simp [phase]))
        (by simp) (fun _ => one.quiet (by simp [phase, Phase.quiet])) (by simp [phase]) (by simp) ?_
      rintro other ⟨⟩
      exact aligned
    · exact one.back (by simp [phase])
  · rename_i phase
    exact one.swap phase
  · rename_i fresh phase
    exact .spawn (one.swapped fresh phase) (one.fresh fresh (.inr phase))
  · exact one

end Steps

/-- A spec that device-api had, or has, at the number it goes with. -/
def Known (deviceApi spec : ℕ × Topology) : Prop :=
  spec.1 ≤ deviceApi.1 ∧ (spec.1 = deviceApi.1 → spec.2 = deviceApi.2)

def Phase.onTheWay (phase : Phase) (spec : ℕ × Topology) : Prop :=
  match phase with
  | .fetching reply => reply = some spec
  | .applying fresh => fresh = spec
  | .swapped fresh => fresh = spec
  | _ => False

def Phase.reconciling (phase : Phase) : Prop :=
  match phase with
  | .fetching _ => True
  | .applying _ => True
  | .swapped _ => True
  | _ => False

structure Current (s : Gateway) : Prop where
  announced : s.announced ≤ s.deviceApi.1
  known : Known s.deviceApi s.current
  asked : s.phase.reconciling → s.asked ≤ s.deviceApi.1
  fetched : ∀ spec, s.phase.onTheWay spec → Known s.deviceApi spec ∧ s.asked ≤ spec.1
  asking : s.unseen = false → s.phase.reconciling → s.announced ≤ s.asked
  reached : s.unseen = false → s.phase = .waiting → s.kept = false → s.announced ≤ s.current.1

section Versions

variable {creds : Option GatewayCredentials} {siteId : String} {s : Gateway}

theorem Known.change {deviceApi spec : ℕ × Topology} (known : Known deviceApi spec)
    (topology : Topology) : Known (deviceApi.1 + 1, topology) spec := by
  have older := known.1
  refine ⟨by dsimp only; omega, fun same => ?_⟩
  dsimp only at same
  omega

theorem Current.change (current : Current s) (topology : Topology) :
    Current { s with deviceApi := (s.deviceApi.1 + 1, topology) } := by
  refine ⟨Nat.le_succ_of_le current.announced, current.known.change topology,
    fun busy => Nat.le_succ_of_le (current.asked busy), ?_, current.asking, current.reached⟩
  intro spec fetched
  obtain ⟨known, asked⟩ := current.fetched spec fetched
  exact ⟨known.change topology, asked⟩

theorem Current.beacon (current : Current s) :
    Current { s with announced := s.deviceApi.1, unseen := true } := by
  refine ⟨le_rfl, current.known, current.asked, current.fetched, ?_, ?_⟩
  · rintro ⟨⟩
  · rintro ⟨⟩

/-- Nothing is on the way in the new phase. -/
theorem Current.move (current : Current s) (phase : Phase) (unseen cancelled : Bool)
    (idle : ¬phase.reconciling) (busy : phase ≠ .waiting) :
    Current { s with phase := phase, unseen := unseen, cancelled := cancelled } := by
  refine ⟨current.announced, current.known, fun reconciling => absurd reconciling idle, ?_,
    fun _ reconciling => absurd reconciling idle, fun _ waits => absurd waits busy⟩
  intro spec fetched
  refine absurd ?_ idle
  dsimp only at fetched ⊢
  unfold Phase.onTheWay at fetched
  unfold Phase.reconciling
  split at fetched
  · trivial
  · trivial
  · trivial
  · exact fetched.elim

theorem Current.back (current : Current s) :
    Current (spawn siteId s s.current true) := by
  refine ⟨current.announced, current.known, False.elim, fun _ => False.elim, fun _ => False.elim,
    ?_⟩
  rintro _ _ ⟨⟩

/-- What was on the way still is. -/
theorem Current.carry (current : Current s) (spec : ℕ × Topology)
    (fetched : s.phase.onTheWay spec) (busy : s.phase.reconciling) {phase : Phase} (maps : Topology)
    (only : ∀ other, phase.onTheWay other → other = spec) (moves : phase ≠ .waiting) :
    Current { s with phase := phase, maps := maps } := by
  refine ⟨current.announced, current.known, fun _ => current.asked busy, ?_,
    fun seen _ => current.asking seen busy, fun _ waits => absurd waits moves⟩
  intro other same
  rw [only other same]
  exact current.fetched spec fetched

theorem Current.step (current : Current s) (input : Step) :
    Current (step creds siteId s input) := by
  unfold TaskSets.step
  split
  · exact current.change _
  · exact current.beacon
  · exact ⟨current.announced, current.known, current.asked, current.fetched, current.asking,
      current.reached⟩
  · split
    · exact current.move .joining false true id (by simp)
    · exact current
  · exact current.move .stopping s.unseen true id (by simp)
  · split
    · refine ⟨current.announced, current.known, fun _ => current.announced, ?_, fun _ _ => le_rfl,
        ?_⟩
      · rintro spec ⟨⟩
      · rintro _ ⟨⟩
    · exact current
  · split
    · exact current.move .stopped s.unseen s.cancelled id (by simp)
    · exact current
  · rename_i phase
    have busy : s.phase.reconciling := by simp [phase, Phase.reconciling]
    refine ⟨current.announced, current.known, fun _ => current.asked busy, ?_,
      fun seen _ => current.asking seen busy, ?_⟩
    · rintro spec ⟨⟩
      exact ⟨⟨le_rfl, fun _ => rfl⟩, current.asked busy⟩
    · rintro _ ⟨⟩
  · exact current.back
  · rename_i fresh phase
    split
    · exact current.carry fresh (by simp [phase, Phase.onTheWay])
        (by simp [phase, Phase.reconciling]) s.maps (fun _ same => same.symm) (by simp)
    · exact current.back
  · rename_i fresh phase
    exact current.carry fresh (by simp [phase, Phase.onTheWay])
      (by simp [phase, Phase.reconciling]) fresh.2 (fun _ same => same.symm) (by simp)
  · rename_i fresh phase
    obtain ⟨known, asked⟩ := current.fetched fresh (by simp [phase, Phase.onTheWay])
    refine ⟨current.announced, known, False.elim, fun _ => False.elim, fun _ => False.elim, ?_⟩
    intro seen _ _
    exact (current.asking seen (by simp [phase, Phase.reconciling])).trans asked
  · exact current

theorem Current.boot {deviceApi fetched : ℕ × Topology} (known : Known deviceApi fetched) :
    Current (.boot siteId deviceApi fetched) :=
  ⟨known.1, known, False.elim, fun _ => False.elim, fun _ => False.elim, fun _ _ _ => le_rfl⟩

end Versions

end TaskSets

end EmsGateway.App
