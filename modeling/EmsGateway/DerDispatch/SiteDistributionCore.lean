import EmsGateway.Dispatch.CommandCore
import EmsGateway.Envelope.TaskCore

/-!
Site distribution (`der_dispatch`): the posture read from the cache, the memory of the current
curtailment event, the modules a site target is split across, and the task that dispatches
shares and puts setpoints back when the event is over. A tick is taken apart into its start and
one step per command, because an operator's command may come in between any two of them. The
source walks hash maps; a step takes any entry of the queue, so every order is covered.
-/

namespace EmsGateway.DerDispatch

open EmsGateway.Asyncapi EmsGateway.Dispatch EmsGateway.Envelope

def channelKey : String := "set_active_power"

/-! `posture` -/

inductive Posture where
  | hold
  | release
  | dispatch (target : ℚ)
  deriving DecidableEq, Repr

structure PostureTopics where
  eventActive : String
  targetPresent : String
  target : String
  deriving DecidableEq, Repr

def posture (topics : PostureTopics) (cache : InputCache) : Posture :=
  match reading cache topics.eventActive with
  | none => .hold
  | some active =>
      if active < 1 / 2 then .release
      else
        match reading cache topics.targetPresent, reading cache topics.target with
        | some present, target =>
            if present < 1 / 2 then .release
            else
              match target with
              | some watts => .dispatch watts
              | none => .hold
        | none, _ => .hold

/-! `event_memory` -/

def sameSetpointW : ℚ := 1 / 1000000

/-- `snapshot` holds the operator setpoints from before the event, `none` outside of one. -/
structure EventMemory where
  snapshot : Option (String → Option ℚ)
  dispatched : Shares

namespace EventMemory

def empty : EventMemory := ⟨none, []⟩

def begin (memory : EventMemory) (operator : String → Option ℚ) : EventMemory :=
  match memory.snapshot with
  | none => { memory with snapshot := some operator }
  | some _ => memory

def changed (memory : EventMemory) (shares : Shares) : Shares :=
  shares.filter fun share =>
    match memory.dispatched.lookup share.1 with
    | some previous => decide (sameSetpointW ≤ |share.2 - previous|)
    | none => true

def record (memory : EventMemory) (moduleId : String) (share : ℚ) : EventMemory :=
  { memory with
    dispatched := memory.dispatched.filter (fun sent => sent.1 ≠ moduleId) ++ [(moduleId, share)] }

def stillSent (current : String → Option ℚ) (sent : String × ℚ) : Bool :=
  match current sent.1 with
  | some now => decide (|now - sent.2| < sameSetpointW)
  | none => false

/-- `end`: the commands that put the modules back to where the event found them. -/
def restores (memory : EventMemory) (current : String → Option ℚ) : Shares :=
  match memory.snapshot with
  | none => []
  | some snapshot =>
      (memory.dispatched.filter (stillSent current)).map fun sent =>
        (sent.1, (snapshot sent.1).getD 0)

end EventMemory

/-! `module_bounds` -/

def moduleHeadroom (d : DistributeBinding) (powerMin powerMax target : ℚ) (siteId : String)
    (cache : InputCache) (now : Instant) (locked : Finset String) : ℚ :=
  let staticW := if target < 0 then |powerMin| else powerMax
  let racksW := ((unlockedChildren d locked).map fun c =>
    rackHeadroom c target siteId cache now).sum
  if d.children.isEmpty then staticW else min staticW racksW

/-- `none` holds the whole tick, `some none` skips the device. -/
def moduleCapacity (channels : DeviceChannels) (cache : InputCache) (now : Instant)
    (siteId : String) (target : ℚ) (locked : Finset String) (deviceId : String) :
    Option (Option ChildCapacity) :=
  match channelOf channels deviceId channelKey with
  | some (.distribute d) =>
      if deviceId ∈ locked then some none
      else
        match d.powerMin, d.powerMax with
        | some powerMin, some powerMax =>
            (reading cache (moduleSocTopic siteId deviceId)).map fun stateOfCharge =>
              some {
                deviceId := deviceId
                operatingState := .standby
                headroom :=
                  moduleHeadroom d powerMin powerMax target siteId cache now locked
                stateOfCharge := stateOfCharge }
        | _, _ => some none
  | _ => some none

def modulesWithBounds (deviceIds : List String) (channels : DeviceChannels) (cache : InputCache)
    (now : Instant) (siteId : String) (target : ℚ) (locked : Finset String) :
    Option (List ChildCapacity) :=
  (deviceIds.mapM (moduleCapacity channels cache now siteId target locked)).map
    List.reduceOption

/-! `module_command` -/

def moduleTopic (siteId moduleId : String) : String :=
  s!"sites/{siteId}/devices/{moduleId}/commands/set/active_power/watts"

structure Call where
  channels : DeviceChannels
  locked : Finset String
  accepts : Broker
  cache : InputCache
  now : Instant
  south : South
  commandId : String

def dispatchOne (siteId : String) (call : Call) (requested : Requested) (moduleId : String)
    (share : ℚ) : Requested × Bool :=
  let handled := handleCommand ⟨siteId, call.channels, call.locked⟩ call.accepts call.cache
    call.now call.south requested (moduleTopic siteId moduleId) (some ⟨share, call.commandId⟩)
  (handled.1, handled.2.isOk)

/-! `site_distribution` -/

def operatorSetpoints (requested : Requested) (deviceId : String) : Option ℚ :=
  requested (deviceId, channelKey)

inductive TaskPhase where
  | idle
  | dispatching (queue : Shares)
  | releasing (queue : Shares) (allPublished : Bool)
  deriving DecidableEq, Repr

structure Site where
  requested : Requested
  memory : EventMemory
  phase : TaskPhase

def Site.initial (requested : Requested) : Site := ⟨requested, .empty, .idle⟩

structure TickWorld where
  topics : PostureTopics
  deviceIds : List String
  channels : DeviceChannels
  cache : InputCache
  now : Instant
  locked : Finset String

def dispatchQueue (siteId : String) (memory : EventMemory) (world : TickWorld) (target : ℚ) :
    Shares :=
  match modulesWithBounds world.deviceIds world.channels world.cache world.now siteId target
    world.locked with
  | none => []
  | some modules => memory.changed (allocate target modules .socWeighted)

def Site.tick (siteId : String) (site : Site) (world : TickWorld) : Site :=
  let operator := operatorSetpoints site.requested
  match site.phase, posture world.topics world.cache with
  | .idle, .release => { site with phase := .releasing (site.memory.restores operator) true }
  | .idle, .dispatch target =>
      let memory := site.memory.begin operator
      { site with
        memory := memory
        phase := .dispatching (dispatchQueue siteId memory world target) }
  | _, _ => site

def Site.send (siteId : String) (site : Site) (index : ℕ) (call : Call) : Site :=
  match site.phase with
  | .dispatching queue =>
      match queue[index]? with
      | some (moduleId, share) =>
          let outcome := dispatchOne siteId call site.requested moduleId share
          { requested := outcome.1
            memory := if outcome.2 then site.memory.record moduleId share else site.memory
            phase := .dispatching (queue.eraseIdx index) }
      | none => site
  | .releasing queue allPublished =>
      match queue[index]? with
      | some (moduleId, setpoint) =>
          let outcome := dispatchOne siteId call site.requested moduleId setpoint
          { site with
            requested := outcome.1
            phase := .releasing (queue.eraseIdx index) (allPublished && outcome.2) }
      | none => site
  | .idle => site

def Site.finish (site : Site) : Site :=
  match site.phase with
  | .dispatching [] => { site with phase := .idle }
  | .releasing [] true => { site with memory := .empty, phase := .idle }
  | .releasing [] false => { site with phase := .idle }
  | _ => site

inductive SiteStep where
  | tick (world : TickWorld)
  | send (index : ℕ) (call : Call)
  | finish
  | operator (call : Call) (moduleId : String) (value : ℚ)

def Site.step (siteId : String) (site : Site) (step : SiteStep) : Site :=
  match step with
  | .tick world => site.tick siteId world
  | .send index call => site.send siteId index call
  | .finish => site.finish
  | .operator call moduleId value =>
      { site with requested := (dispatchOne siteId call site.requested moduleId value).1 }

end EmsGateway.DerDispatch
