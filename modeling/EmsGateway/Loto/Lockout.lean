import EmsGateway.Dispatch.Execute
import EmsGateway.Dispatch.Requested
import EmsGateway.Envelope.Task
import EmsGateway.Library.Queues

/-!
Lockout across the gateway's write paths. The refresher swaps the locked set
(`loto::refresher::apply`) whenever nobody holds its read guard. The rebalance task and the shed
task clone the set and let go of it before they write; `handle_command` runs under the guard
from its check to its last write. A path is the writes it has still to start, and each start is
a step of its own, so the set may change between any two of them.
-/

namespace EmsGateway.Loto

open EmsGateway.Asyncapi EmsGateway.Dispatch EmsGateway.Envelope EmsGateway.Library

structure CapModule where
  deviceId : String
  channelKey : String
  binding : PowerCapBinding
  deriving DecidableEq, Repr

/-- `shed_task::module_caps`: the site's percentage, never above a module's own operator cap. -/
def moduleCaps (modules : List CapModule) (percent : ℚ) (requested : Requested) :
    List (String × String × ℚ) :=
  modules.flatMap fun m =>
    childCaps m.binding (min percent ((requested (m.deviceId, m.channelKey)).getD 100))

structure Path where
  holdsGuard : Bool
  queue : List Write

structure Gateway where
  locked : Finset String
  paths : List Path

def Gateway.idle (locked : Finset String) : Gateway := ⟨locked, []⟩

def Gateway.guarded (g : Gateway) : Bool := g.paths.any Path.holdsGuard

inductive GatewayStep where
  | apply (fresh : Finset String)
  | rebalance (cfg : EnvelopeTaskConfig) (state : TaskState) (input : TaskInput)
      (channels : DeviceChannels) (south : South)
  | shed (modules : List CapModule) (percent : ℚ) (requested : Requested)
      (channels : DeviceChannels) (south : South)
  | command (siteId : String) (channels : DeviceChannels) (accepts : Broker)
      (requested : Requested) (topic : String) (frame : Option CommandFrame)
      (cache : InputCache) (now : Instant) (south : South)
  | write (index : ℕ)
  | finish (index : ℕ)

def rebalanceQueue (locked : Finset String) (cfg : EnvelopeTaskConfig) (state : TaskState)
    (input : TaskInput) (channels : DeviceChannels) (south : South) : List Write :=
  match (tickOnce cfg state { input with locked := locked }).plan with
  | some plan => (writeShares channels cfg.channelKey south plan.writes).started
  | none => []

def commandQueue (locked : Finset String) (siteId : String) (channels : DeviceChannels)
    (accepts : Broker) (requested : Requested) (topic : String) (frame : Option CommandFrame)
    (cache : InputCache) (now : Instant) (south : South) : List Write :=
  match (beginCommand ⟨siteId, channels, locked⟩ accepts requested topic frame).2 with
  | .settled _ => []
  | .writing pending => (pending.execute cache now south).started

def Gateway.step (g : Gateway) (step : GatewayStep) : Gateway :=
  match step with
  | .apply fresh => if g.guarded then g else { g with locked := fresh }
  | .rebalance cfg state input channels south =>
      { g with paths :=
          g.paths ++ [⟨false, rebalanceQueue g.locked cfg state input channels south⟩] }
  | .shed modules percent requested channels south =>
      let caps := moduleCaps modules percent requested
      { g with paths := g.paths ++ [⟨false, (writeCaps caps channels g.locked south).started⟩] }
  | .command siteId channels accepts requested topic frame cache now south =>
      let queue :=
        commandQueue g.locked siteId channels accepts requested topic frame cache now south
      { g with paths := g.paths ++ [⟨true, queue⟩] }
  | .write index =>
      { g with paths := g.paths.modify index fun path => { path with queue := path.queue.tail } }
  | .finish index =>
      match g.paths[index]? with
      | some ⟨_, []⟩ => { g with paths := g.paths.eraseIdx index }
      | _ => g

def Gateway.starts (g : Gateway) (step : GatewayStep) : Option Write :=
  match step with
  | .write index => g.paths[index]?.bind fun path => path.queue.head?
  | _ => none

/-- No lock is set on a device that a batch in progress has still to write. -/
def LeavesBatches (g : Gateway) (step : GatewayStep) : Prop :=
  match step with
  | .apply fresh => g.guarded = true ∨
      ∀ path ∈ g.paths, ∀ write ∈ path.queue, write.deviceId ∉ fresh
  | _ => True

instance (g : Gateway) (step : GatewayStep) : Decidable (LeavesBatches g step) :=
  match step with
  | .apply fresh => inferInstanceAs (Decidable (g.guarded = true ∨
      ∀ path ∈ g.paths, ∀ write ∈ path.queue, write.deviceId ∉ fresh))
  | .rebalance _ _ _ _ _ => .isTrue trivial
  | .shed _ _ _ _ _ => .isTrue trivial
  | .command _ _ _ _ _ _ _ _ _ => .isTrue trivial
  | .write _ => .isTrue trivial
  | .finish _ => .isTrue trivial

theorem rebalanceQueue_unlocked {locked : Finset String} {cfg : EnvelopeTaskConfig}
    {state : TaskState} {input : TaskInput} {channels : DeviceChannels} {south : South}
    {write : Write} (queued : write ∈ rebalanceQueue locked cfg state input channels south) :
    write.deviceId ∉ locked := by
  unfold rebalanceQueue at queued
  split at queued
  · rename_i plan planned
    obtain ⟨share, member, rfl⟩ := writeShares_started queued
    obtain ⟨_, _, _, shares, _, _, computed, made⟩ := tickOnce_planned planned
    obtain ⟨source, present, same⟩ := List.mem_map.mp (WriteState.mem_plan made member)
    rw [← same]
    exact computeShares_unlocked computed present
  · simp at queued

theorem commandQueue_unlocked {locked : Finset String} {siteId : String}
    {channels : DeviceChannels} {accepts : Broker} {requested : Requested} {topic : String}
    {frame : Option CommandFrame} {cache : InputCache} {now : Instant} {south : South}
    {write : Write} (queued : write ∈
      commandQueue locked siteId channels accepts requested topic frame cache now south) :
    write.deviceId ∉ locked := by
  unfold commandQueue at queued
  rcases beginCommand_cases ⟨siteId, channels, locked⟩ accepts requested topic frame with
    ⟨result, settled⟩ | ⟨pending, answers, writing⟩
  · rw [settled] at queued
    simp at queued
  · rw [writing] at queued
    simp only [Pending.execute, answers.sameEnv] at queued
    exact executeSetpoint_unlocked answers.unlocked queued

def QueuesUnlocked (g : Gateway) : Prop :=
  ∀ path ∈ g.paths, ∀ write ∈ path.queue, write.deviceId ∉ g.locked

theorem QueuesUnlocked.append {g : Gateway} (unlocked : QueuesUnlocked g) {path : Path}
    (fresh : ∀ write ∈ path.queue, write.deviceId ∉ g.locked) :
    QueuesUnlocked { g with paths := g.paths ++ [path] } :=
  forall_queued_append unlocked fresh

theorem QueuesUnlocked.write {g : Gateway} (unlocked : QueuesUnlocked g) (index : ℕ) :
    QueuesUnlocked (g.step (.write index)) := by
  refine forall_queued_modify unlocked ?_ index
  intro path write queued
  exact List.mem_of_mem_tail queued

theorem QueuesUnlocked.step (g : Gateway) (step : GatewayStep) (unlocked : QueuesUnlocked g)
    (leaves : LeavesBatches g step) : QueuesUnlocked (g.step step) := by
  cases step with
  | apply fresh =>
      simp only [Gateway.step]
      split
      · exact unlocked
      · rename_i free
        rcases leaves with guarded | clear
        · exact absurd guarded free
        · exact clear
  | rebalance cfg state input channels south =>
      exact unlocked.append fun write queued => rebalanceQueue_unlocked queued
  | shed modules percent requested channels south =>
      exact unlocked.append fun write queued => writeCaps_unlocked queued
  | command siteId channels accepts requested topic frame cache now south =>
      exact unlocked.append fun write queued => commandQueue_unlocked queued
  | write index => exact unlocked.write index
  | finish index =>
      simp only [Gateway.step]
      split
      · intro path member
        exact unlocked path (List.mem_of_mem_eraseIdx member)
      · exact unlocked

theorem QueuesUnlocked.starts {g : Gateway} (unlocked : QueuesUnlocked g) {step : GatewayStep}
    {write : Write} (starts : g.starts step = some write) : write.deviceId ∉ g.locked := by
  cases step with
  | write index =>
      obtain ⟨path, found, first⟩ := Option.bind_eq_some_iff.mp starts
      exact unlocked path (List.mem_of_getElem? found) write (List.mem_of_head? first)
  | _ => simp [Gateway.starts] at starts

/-- No write starts on a device that is locked out at that moment, as long as no lock is set on
a device that a batch already on its way has still to write. -/
theorem lockout_honoured_at_every_write {locked : Finset String} {steps : List GatewayStep}
    (leaves : Along Gateway.step LeavesBatches (Gateway.idle locked) steps) :
    Along Gateway.step (fun g step => ∀ write, g.starts step = some write →
      write.deviceId ∉ g.locked) (Gateway.idle locked) steps := by
  refine Along.of_invariant QueuesUnlocked QueuesUnlocked.step ?_ ?_ leaves
  · intro g step unlocked _ write starts
    exact unlocked.starts starts
  · intro path member
    simp [Gateway.idle] at member

/-! A plain module `m` over racks `r1` and `r2`, asked for 60 W. -/

def twoRackTick : GatewayStep :=
  .rebalance
    ⟨"m", "set_active_power", none, .distribute (rackBinding [rack "r1" 100, rack "r2" 100])⟩
    .initial
    { dt := Duration.fromSecs 1
      now := 0
      siteId := "s1"
      cache := rackCache
      requested := fun _ => some 60
      locked := ∅ }
    (fun _ => some fun _ => some .modbusTcp) (fun _ => .ok ())

theorem lockout_honoured_after_batch :
    Along Gateway.step (fun g step => ∀ write, g.starts step = some write →
      write.deviceId ∉ g.locked) (Gateway.idle ∅)
        [twoRackTick, .write 0, .write 0, .finish 0, .apply {"r2"}, twoRackTick, .write 0] :=
  lockout_honoured_at_every_write (by decide +kernel)

/-- A lock on `r1` set while the batch is still writing `r2` comes too late for the snapshot the
batch was made from. -/
theorem lockout_missed_mid_batch :
    ¬∀ (locked : Finset String) (steps : List GatewayStep),
      Along Gateway.step (fun g step => ∀ write, g.starts step = some write →
        write.deviceId ∉ g.locked) (Gateway.idle locked) steps := by
  intro claimed
  have along := claimed ∅ [twoRackTick, .write 0, .apply {"r1"}, .write 0]
  have starts : (run Gateway.step (Gateway.idle ∅)
      [twoRackTick, .write 0, .apply {"r1"}]).starts (.write 0) =
        some ⟨"r1", "set_active_power", .setpoint 48⟩ := by decide +kernel
  have locked : "r1" ∈ (run Gateway.step (Gateway.idle ∅)
      [twoRackTick, .write 0, .apply {"r1"}]).locked := by decide +kernel
  exact along.2.2.2.1 _ starts locked

end EmsGateway.Loto
