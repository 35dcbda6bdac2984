import EmsGateway.Dispatch.AllocationOrder
import EmsGateway.DerDispatch.EventRelease
import EmsGateway.Library.KeyedWrites

/-!
Site distribution walks hash maps, whose order is another one in every process. Two runs that meet
the same world and differ only in those orders stay the same up to order: the same requests, the
same snapshot, and the same share for each module, in whichever place of the queue.
-/

namespace EmsGateway.DerDispatch

open EmsGateway.Asyncapi EmsGateway.Dispatch EmsGateway.Envelope EmsGateway.Library

section Modules

variable {deviceIds others : List String} (channels : DeviceChannels) (cache : InputCache)
  (now : Instant) (siteId : String) (target : ℚ) (locked : Finset String)

theorem moduleCapacity_deviceId {deviceId : String} {m : ChildCapacity}
    (found : moduleCapacity channels cache now siteId target locked deviceId = some (some m)) :
    m.deviceId = deviceId := by
  unfold moduleCapacity at found
  split at found
  · split at found
    · simp at found
    · split at found
      · obtain ⟨soc, _, same⟩ := Option.map_eq_some_iff.mp found
        rw [← Option.some.inj same]
      · simp at found
  · simp at found

theorem modulesWithBounds_eq (deviceIds : List String) :
    modulesWithBounds deviceIds channels cache now siteId target locked =
      if deviceIds.all fun deviceId =>
          (moduleCapacity channels cache now siteId target locked deviceId).isSome then
        some (deviceIds.filterMap fun deviceId =>
          (moduleCapacity channels cache now siteId target locked deviceId).join)
      else none := by
  unfold modulesWithBounds
  rw [mapM_some_eq]
  split
  · rw [Option.map_some, List.reduceOption, List.filterMap_filterMap]
    rfl
  · rfl

theorem modulesWithBounds_ids {modules : List ChildCapacity}
    (found : modulesWithBounds deviceIds channels cache now siteId target locked = some modules) :
    modules.map ChildCapacity.deviceId = deviceIds.filter fun deviceId =>
      (moduleCapacity channels cache now siteId target locked deviceId).join.isSome := by
  rw [modulesWithBounds_eq] at found
  split at found
  · obtain rfl := Option.some.inj found
    rw [List.map_filterMap, ← List.filterMap_eq_filter]
    congr 1
    funext deviceId
    cases capacity : (moduleCapacity channels cache now siteId target locked deviceId).join with
    | none => simp [Option.guard, capacity]
    | some m =>
        have same := moduleCapacity_deviceId _ _ _ _ _ _ (Option.join_eq_some_iff.mp capacity)
        simp [Option.guard, capacity, same]
  · exact absurd found (Option.some_ne_none _).symm

theorem modulesWithBounds_perm (order : others.Perm deviceIds) :
    Option.Rel List.Perm (modulesWithBounds others channels cache now siteId target locked)
      (modulesWithBounds deviceIds channels cache now siteId target locked) := by
  rw [modulesWithBounds_eq, modulesWithBounds_eq, order.all_eq]
  split
  · exact .some (order.filterMap _)
  · exact .none

end Modules

/-! Sites that are the same up to the order of their maps. -/

inductive SamePhase : TaskPhase → TaskPhase → Prop
  | idle : SamePhase .idle .idle
  | dispatching {queue other : Shares} (same : other.Perm queue)
      (unique : (queue.map Prod.fst).Nodup) : SamePhase (.dispatching queue) (.dispatching other)
  | releasing {queue other : Shares} (same : other.Perm queue)
      (unique : (queue.map Prod.fst).Nodup) (allPublished : Bool) :
      SamePhase (.releasing queue allPublished) (.releasing other allPublished)

structure SameSite (site other : Site) : Prop where
  requested : other.requested = site.requested
  snapshot : other.memory.snapshot = site.memory.snapshot
  dispatched : other.memory.dispatched.Perm site.memory.dispatched
  unique : (site.memory.dispatched.map Prod.fst).Nodup
  phase : SamePhase site.phase other.phase

/-- The same step, but for the order in which the channels are walked and the place of the command
in the queue. -/
inductive SameStep (site other : Site) : SiteStep → SiteStep → Prop
  | tick (world : TickWorld) {deviceIds : List String} (unique : world.deviceIds.Nodup)
      (order : deviceIds.Perm world.deviceIds) :
      SameStep site other (.tick world) (.tick { world with deviceIds := deviceIds })
  | send (index place : ℕ) (call : Call)
      (addressed : (other.queue[place]?).map Prod.fst = (site.queue[index]?).map Prod.fst) :
      SameStep site other (.send index call) (.send place call)
  | finish : SameStep site other .finish .finish
  | operator (call : Call) (moduleId : String) (value : ℚ) :
      SameStep site other (.operator call moduleId value) (.operator call moduleId value)

theorem EventMemory.begin_dispatched (memory : EventMemory) (operator : String → Option ℚ) :
    (memory.begin operator).dispatched = memory.dispatched := by
  cases event : memory.snapshot with
  | none => rw [EventMemory.begin_of_none event]
  | some snapshot => rw [EventMemory.begin_of_some event]

theorem record_unique {memory : EventMemory} (unique : (memory.dispatched.map Prod.fst).Nodup)
    (moduleId : String) (share : ℚ) :
    ((memory.record moduleId share).dispatched.map Prod.fst).Nodup := by
  unfold EventMemory.record
  rw [List.map_append]
  refine List.nodup_append'.mpr ⟨?_, by simp, ?_⟩
  · exact unique.sublist (List.filter_sublist.map _)
  · intro id earlier recorded
    obtain ⟨sent, kept, rfl⟩ := List.mem_map.mp earlier
    simp only [List.mem_filter, decide_eq_true_eq] at kept
    simp only [List.map_cons, List.map_nil, List.mem_singleton] at recorded
    exact kept.2 recorded

namespace SameSite

variable {siteId : String} {site other : Site}

theorem queue (same : SameSite site other) :
    other.queue.Perm site.queue ∧ (site.queue.map Prod.fst).Nodup := by
  have phase := same.phase
  unfold Site.queue
  generalize site.phase = left at phase
  generalize other.phase = right at phase
  cases phase with
  | idle => simp
  | dispatching same unique => exact ⟨same, unique⟩
  | releasing same unique _ => exact ⟨same, unique⟩

theorem changed (same : SameSite site other) {shares others : Shares}
    (order : others.Perm shares) :
    (other.memory.changed others).Perm (site.memory.changed shares) := by
  have lookups : ∀ key, other.memory.dispatched.lookup key = site.memory.dispatched.lookup key :=
    lookup_perm same.dispatched same.unique
  unfold EventMemory.changed
  simp only [lookups]
  exact order.filter _

theorem begin (same : SameSite site other) :
    SameSite { site with memory := site.memory.begin (operatorSetpoints site.requested) }
      { other with memory := other.memory.begin (operatorSetpoints other.requested) } := by
  have snapshot := same.snapshot
  rw [same.requested]
  cases event : site.memory.snapshot with
  | none =>
      rw [event] at snapshot
      rw [EventMemory.begin_of_none event, EventMemory.begin_of_none snapshot]
      exact ⟨rfl, rfl, same.dispatched, same.unique, same.phase⟩
  | some before =>
      rw [event] at snapshot
      rw [EventMemory.begin_of_some event, EventMemory.begin_of_some snapshot]
      exact ⟨rfl, same.snapshot, same.dispatched, same.unique, same.phase⟩

theorem restores (same : SameSite site other) (current : String → Option ℚ) :
    (other.memory.restores current).Perm (site.memory.restores current) ∧
      ((site.memory.restores current).map Prod.fst).Nodup := by
  unfold EventMemory.restores
  rw [same.snapshot]
  split
  · exact ⟨.refl _, by simp⟩
  · refine ⟨(same.dispatched.filter _).map _, ?_⟩
    rw [List.map_map]
    exact same.unique.sublist (List.filter_sublist.map Prod.fst)

theorem dispatchQueue (same : SameSite site other) (world : TickWorld) (target : ℚ)
    {deviceIds : List String} (unique : world.deviceIds.Nodup)
    (order : deviceIds.Perm world.deviceIds) :
    (DerDispatch.dispatchQueue siteId other.memory { world with deviceIds := deviceIds }
        target).Perm (DerDispatch.dispatchQueue siteId site.memory world target) ∧
      ((DerDispatch.dispatchQueue siteId site.memory world target).map Prod.fst).Nodup := by
  have modules := modulesWithBounds_perm world.channels world.cache world.now siteId target
    world.locked order
  have ids := @modulesWithBounds_ids world.deviceIds world.channels world.cache world.now siteId
    target world.locked
  unfold DerDispatch.dispatchQueue
  generalize modulesWithBounds world.deviceIds world.channels world.cache world.now siteId target
    world.locked = collected at modules ids
  generalize modulesWithBounds deviceIds world.channels world.cache world.now siteId target
    world.locked = reordered at modules
  cases modules with
  | none => exact ⟨.refl _, by simp⟩
  | some permuted =>
      refine ⟨same.changed (allocate_perm target .socWeighted permuted), ?_⟩
      apply (allocate_ids_nodup target .socWeighted ?_).sublist (List.filter_sublist.map _)
      rw [ids rfl]
      exact unique.filter _

theorem tick (same : SameSite site other) (world : TickWorld) {deviceIds : List String}
    (unique : world.deviceIds.Nodup) (order : deviceIds.Perm world.deviceIds) :
    SameSite (site.tick siteId world)
      (other.tick siteId { world with deviceIds := deviceIds }) := by
  obtain ⟨requested, memory, phase⟩ := site
  obtain ⟨otherRequested, otherMemory, otherPhase⟩ := other
  have alike : SamePhase phase otherPhase := same.phase
  unfold Site.tick
  dsimp only
  cases alike with
  | idle =>
      cases posture world.topics world.cache with
      | hold => exact same
      | release =>
          obtain ⟨restores, ids⟩ := same.restores (operatorSetpoints requested)
          have agreed : otherRequested = requested := same.requested
          rw [agreed]
          exact ⟨rfl, same.snapshot, same.dispatched, same.unique, .releasing restores ids true⟩
      | dispatch target =>
          have begun := same.begin
          obtain ⟨shares, ids⟩ := @dispatchQueue siteId _ _ begun world target _ unique order
          exact ⟨begun.requested, begun.snapshot, begun.dispatched, begun.unique,
            .dispatching shares ids⟩
  | dispatching _ _ => exact same
  | releasing _ _ _ => exact same

theorem finish (same : SameSite site other) : SameSite site.finish other.finish := by
  obtain ⟨requested, memory, phase⟩ := site
  obtain ⟨otherRequested, otherMemory, otherPhase⟩ := other
  have alike : SamePhase phase otherPhase := same.phase
  unfold Site.finish
  dsimp only
  cases alike with
  | idle => exact same
  | @dispatching queue otherQueue order _ =>
      cases queue with
      | nil =>
          obtain rfl := order.eq_nil
          exact ⟨same.requested, same.snapshot, same.dispatched, same.unique, .idle⟩
      | cons first rest =>
          cases otherQueue with
          | nil => exact absurd order.symm.eq_nil (List.cons_ne_nil _ _)
          | cons _ _ => exact same
  | @releasing queue otherQueue order _ allPublished =>
      cases queue with
      | nil =>
          obtain rfl := order.eq_nil
          cases allPublished with
          | true => exact ⟨same.requested, rfl, .refl _, by simp [EventMemory.empty], .idle⟩
          | false => exact ⟨same.requested, same.snapshot, same.dispatched, same.unique, .idle⟩
      | cons first rest =>
          cases otherQueue with
          | nil => exact absurd order.symm.eq_nil (List.cons_ne_nil _ _)
          | cons _ _ => exact same

/-- The same command is taken out of both queues, at its place in each. -/
theorem taken (same : SameSite site other) {index place : ℕ} {moduleId : String} {share : ℚ}
    (addressed : (other.queue[place]?).map Prod.fst = (site.queue[index]?).map Prod.fst)
    (found : site.queue[index]? = some (moduleId, share)) :
    other.queue[place]? = some (moduleId, share) ∧
      (other.queue.eraseIdx place).Perm (site.queue.eraseIdx index) ∧
      ((site.queue.eraseIdx index).map Prod.fst).Nodup := by
  obtain ⟨order, unique⟩ := same.queue
  rw [found, Option.map_some] at addressed
  obtain ⟨⟨id, given⟩, foundOther, rfl⟩ := Option.map_eq_some_iff.mp addressed
  have member := order.mem_iff.mp (List.mem_of_getElem? foundOther)
  obtain ⟨_, rfl⟩ := Prod.mk.inj
    (List.inj_on_of_nodup_map unique member (List.mem_of_getElem? found) rfl)
  have rest := perm_cons_eraseIdx found
  refine ⟨foundOther, ?_, ?_⟩
  · exact ((perm_cons_eraseIdx foundOther).symm.trans (order.trans rest)).cons_inv
  · exact unique.sublist ((List.eraseIdx_sublist _ _).map _)

theorem record (same : SameSite site other) (moduleId : String) (share : ℚ) :
    SameSite { site with memory := site.memory.record moduleId share }
      { other with memory := other.memory.record moduleId share } := by
  exact ⟨same.requested, same.snapshot, (same.dispatched.filter _).append_right _,
    record_unique same.unique moduleId share, same.phase⟩

theorem send (same : SameSite site other) {index place : ℕ} (call : Call)
    (addressed : (other.queue[place]?).map Prod.fst = (site.queue[index]?).map Prod.fst) :
    SameSite (site.send siteId index call) (other.send siteId place call) := by
  cases found : site.queue[index]? with
  | none =>
      rw [found, Option.map_none, Option.map_eq_none_iff] at addressed
      rw [Site.send_of_none siteId site found, Site.send_of_none siteId other addressed]
      exact same
  | some sent =>
      obtain ⟨moduleId, share⟩ := sent
      obtain ⟨foundOther, order, unique⟩ := same.taken addressed found
      have recorded := same.record moduleId share
      obtain ⟨requested, memory, phase⟩ := site
      obtain ⟨otherRequested, otherMemory, otherPhase⟩ := other
      have agreed : otherRequested = requested := same.requested
      have alike : SamePhase phase otherPhase := same.phase
      subst agreed
      cases alike with
      | idle => simp [Site.queue] at found
      | dispatching _ _ =>
          simp only [Site.queue] at found foundOther order unique
          simp only [Site.send, found, foundOther]
          cases (dispatchOne siteId call otherRequested moduleId share).2 with
          | true =>
              exact ⟨rfl, recorded.snapshot, recorded.dispatched, recorded.unique,
                .dispatching order unique⟩
          | false =>
              exact ⟨rfl, same.snapshot, same.dispatched, same.unique, .dispatching order unique⟩
      | releasing _ _ published =>
          simp only [Site.queue] at found foundOther order unique
          simp only [Site.send, found, foundOther]
          exact ⟨rfl, same.snapshot, same.dispatched, same.unique, .releasing order unique _⟩

theorem step (site other : Site) (input otherInput : SiteStep) (same : SameSite site other)
    (matched : SameStep site other input otherInput) :
    SameSite (site.step siteId input) (other.step siteId otherInput) := by
  cases matched with
  | tick world unique order => exact same.tick world unique order
  | send index place call addressed => exact same.send call addressed
  | finish => exact same.finish
  | operator call moduleId value =>
      refine ⟨?_, same.snapshot, same.dispatched, same.unique, same.phase⟩
      simp only [Site.step, same.requested]

theorem initial (requested : Requested) :
    SameSite (Site.initial requested) (Site.initial requested) :=
  ⟨rfl, rfl, .refl _, by simp [Site.initial, EventMemory.empty], .idle⟩

end SameSite

end EmsGateway.DerDispatch
