import EmsGateway.App.InputTopics
import EmsGateway.Dispatch.Requested

/-!
What a task makes of the cache depends on the topics listed for it and on no other: two caches
that agree on them look alike to the task. With the subscriptions of `input_topics`, whatever else
the broker carries is nothing to any task.
-/

namespace EmsGateway.App

open EmsGateway.Asyncapi EmsGateway.DerDispatch EmsGateway.Dispatch EmsGateway.Envelope
open EmsGateway.Library EmsGateway.Loto

def Agree (topics : List String) (cache other : InputCache) : Prop :=
  ∀ topic ∈ topics, cache topic = other topic

theorem Agree.mono {topics fewer : List String} {cache other : InputCache}
    (agree : Agree topics cache other) (subset : fewer ⊆ topics) : Agree fewer cache other :=
  fun topic member => agree topic (subset member)

theorem Agree.left {first second : List String} {cache other : InputCache}
    (agree : Agree (first ++ second) cache other) : Agree first cache other :=
  agree.mono (List.subset_append_left first second)

theorem Agree.right {first second : List String} {cache other : InputCache}
    (agree : Agree (first ++ second) cache other) : Agree second cache other :=
  agree.mono (List.subset_append_right first second)

theorem Agree.reading {topics : List String} {cache other : InputCache} {topic : String}
    (agree : Agree topics cache other) (member : topic ∈ topics) :
    reading cache topic = reading other topic := by
  unfold Envelope.reading
  rw [agree topic member]

variable {cache other : InputCache} {siteId : String} {now : Instant}

/-! `dispatch` -/

theorem operatorReservePercent_congr {d : DistributeBinding}
    (agree : Agree (substituteAll d.operatorReserveTopic.toList siteId) cache other) :
    operatorReservePercent d siteId cache = operatorReservePercent d siteId other := by
  unfold operatorReservePercent
  cases reserve : d.operatorReserveTopic with
  | none => rfl
  | some template =>
      have same : cache (substituteSiteId template siteId) =
          other (substituteSiteId template siteId) := agree _ (by simp [substituteAll, reserve])
      simp [same]

theorem rackHeadroom_congr {c : ChildAllocation} (target : ℚ)
    (agree : Agree [limitTopic siteId c.deviceId true, limitTopic siteId c.deviceId false]
      cache other) :
    rackHeadroom c target siteId cache now = rackHeadroom c target siteId other now := by
  have same : cache (limitTopic siteId c.deviceId (decide (target < 0))) =
      other (limitTopic siteId c.deviceId (decide (target < 0))) := by
    apply agree
    cases decide (target < 0) <;> simp
  unfold rackHeadroom liveLimit
  rw [same]

theorem limits_of_reads {children : List ChildAllocation} {c : ChildAllocation}
    (agree : Agree (limitReads children siteId) cache other) (isChild : c ∈ children) :
    Agree [limitTopic siteId c.deviceId true, limitTopic siteId c.deviceId false] cache other :=
  agree.mono fun _ limit => List.mem_flatMap.mpr ⟨c, isChild, limit⟩

theorem resolveChild_congr {d : DistributeBinding} {c : ChildAllocation} (target : ℚ)
    (agree : Agree (sharesReads d siteId) cache other) (isChild : c ∈ d.children) :
    resolveChild c target siteId cache now = resolveChild c target siteId other now := by
  have ownTopics : Agree [substituteSiteId c.operatingStateTopic siteId,
      substituteSiteId c.stateOfChargeTopic siteId] cache other := by
    refine (Agree.left (Agree.left agree)).mono fun topic own => ?_
    exact List.mem_flatMap.mpr ⟨c, isChild, own⟩
  have limits : Agree (limitReads d.children siteId) cache other := Agree.right (Agree.left agree)
  unfold resolveChild stateEntry socEntry
  rw [ownTopics _ (by simp), ownTopics (substituteSiteId c.stateOfChargeTopic siteId) (by simp),
    rackHeadroom_congr target (limits_of_reads limits isChild)]

theorem computeShares_congr {d : DistributeBinding} (target : ℚ) (locked : Finset String)
    (agree : Agree (sharesReads d siteId) cache other) :
    computeShares d target siteId cache now locked =
      computeShares d target siteId other now locked := by
  have reserve : Agree (substituteAll d.operatorReserveTopic.toList siteId) cache other :=
    Agree.right agree
  have floor : effectiveFloorPercent d siteId cache = effectiveFloorPercent d siteId other := by
    unfold effectiveFloorPercent
    rw [operatorReservePercent_congr reserve]
  have children : (unlockedChildren d locked).mapM (fun c => do
        let child ← resolveChild c target siteId cache now
        return applyReserveFloor (effectiveFloorPercent d siteId other) child target) =
      (unlockedChildren d locked).mapM (fun c => do
        let child ← resolveChild c target siteId other now
        return applyReserveFloor (effectiveFloorPercent d siteId other) child target) := by
    refine mapM_congr_of_mem fun c isUnlocked => ?_
    rw [resolveChild_congr target agree (List.mem_of_mem_filter isUnlocked)]
  unfold computeShares
  rw [floor]
  dsimp only
  rw [children]

/-! `envelope` -/

theorem guardInputs_congr {guard : EnvelopeGuardConfig} (input : TaskInput)
    (agree : Agree (guardReads guard siteId) cache other) :
    guardInputs guard { input with siteId := siteId, cache := cache } =
      guardInputs guard { input with siteId := siteId, cache := other } := by
  have active : reading cache (substituteSiteId guard.activePowerTopic siteId) =
      reading other (substituteSiteId guard.activePowerTopic siteId) := by
    refine agree.reading (List.mem_map_of_mem ?_)
    simp [EnvelopeGuardConfig.templates]
  have poi : ∀ template, guard.poiActivePowerTopic = some template →
      cache (substituteSiteId template siteId) = other (substituteSiteId template siteId) := by
    intro template isPoi
    refine agree _ (List.mem_map_of_mem (List.mem_append_right _ ?_))
    exact Option.mem_toList.mpr isPoi
  unfold guardInputs
  dsimp only
  rw [active]
  cases reading other (substituteSiteId guard.activePowerTopic siteId) with
  | none => rfl
  | some activePower =>
      cases isPoi : guard.poiActivePowerTopic with
      | none => rfl
      | some template =>
          dsimp only
          rw [poi template isPoi]

theorem recharge_congr {binding : ProtocolBinding} {deviceId : String} (requestedW : ℚ)
    (agree : Agree (rechargeReads binding deviceId siteId) cache other) :
    rechargeRequestedW binding deviceId requestedW siteId cache =
      rechargeRequestedW binding deviceId requestedW siteId other := by
  cases binding with
  | distribute d =>
      unfold rechargeRequestedW
      dsimp only
      cases readiness : d.readinessSocPercent with
      | none => rfl
      | some percent =>
          cases power : d.rechargePowerW with
          | none => rfl
          | some watts =>
              have event : reading cache (eventActiveTopic siteId) =
                  reading other (eventActiveTopic siteId) :=
                agree.reading (by simp [rechargeReads, readiness, power])
              have soc : reading cache (moduleSocTopic siteId deviceId) =
                  reading other (moduleSocTopic siteId deviceId) :=
                agree.reading (by simp [rechargeReads, readiness, power])
              rw [event, soc]
  | _ => rfl

theorem steer_congr {cfg : EnvelopeTaskConfig} {guard : EnvelopeGuardConfig} (state : TaskState)
    (input : TaskInput) (requestedSetpoint activePower : ℚ) (poi : Option (ℚ × Instant))
    (recharge : Agree (rechargeReads cfg.binding cfg.deviceId siteId) cache other)
    (own : Agree (guardReads guard siteId) cache other) :
    steer cfg guard state { input with siteId := siteId, cache := cache } requestedSetpoint
        activePower poi =
      steer cfg guard state { input with siteId := siteId, cache := other } requestedSetpoint
        activePower poi := by
  have importLimit : reading cache (substituteSiteId guard.importLimitTopic siteId) =
      reading other (substituteSiteId guard.importLimitTopic siteId) := by
    refine own.reading (List.mem_map_of_mem ?_)
    simp [EnvelopeGuardConfig.templates]
  have exportLimit : reading cache (substituteSiteId guard.exportLimitTopic siteId) =
      reading other (substituteSiteId guard.exportLimitTopic siteId) := by
    refine own.reading (List.mem_map_of_mem ?_)
    simp [EnvelopeGuardConfig.templates]
  unfold steer
  dsimp only
  rw [importLimit, exportLimit, recharge_congr requestedSetpoint recharge]

theorem tickTarget_congr {cfg : EnvelopeTaskConfig} (state : TaskState) (input : TaskInput)
    (agree : Agree (envelopeReads cfg siteId) cache other) :
    tickTarget cfg state { input with siteId := siteId, cache := cache } =
      tickTarget cfg state { input with siteId := siteId, cache := other } := by
  unfold tickTarget
  dsimp only
  cases guarded : cfg.guard with
  | none => rfl
  | some guard =>
      have guardPart := Agree.left agree
      rw [guarded] at guardPart
      have recharge : Agree (rechargeReads cfg.binding cfg.deviceId siteId) cache other :=
        Agree.left guardPart
      have own : Agree (guardReads guard siteId) cache other := Agree.right guardPart
      dsimp only
      rw [guardInputs_congr input own]
      congr 1
      funext ⟨activePower, poi⟩
      dsimp only
      rw [steer_congr state input _ activePower poi recharge own]

theorem energizeTargetW_congr {cfg : EnvelopeTaskConfig} (raw : ℚ)
    (agree : Agree (envelopeReads cfg siteId) cache other) :
    energizeTargetW raw siteId cache = energizeTargetW raw siteId other := by
  have same : reading cache (energizeEnabledTopic siteId) =
      reading other (energizeEnabledTopic siteId) :=
    (Agree.right agree).reading (List.mem_cons_self ..)
  unfold energizeTargetW mustCease
  rw [same]

theorem tickOnce_congr {cfg : EnvelopeTaskConfig} (state : TaskState) (input : TaskInput)
    (agree : Agree (envelopeReads cfg siteId) cache other) :
    tickOnce cfg state { input with siteId := siteId, cache := cache } =
      tickOnce cfg state { input with siteId := siteId, cache := other } := by
  unfold tickOnce
  rw [tickTarget_congr state input agree]
  cases tickTarget cfg state { input with siteId := siteId, cache := other } with
  | none => rfl
  | some steered =>
      cases bound : cfg.binding with
      | distribute d =>
          have shares : Agree (sharesReads d siteId) cache other := by
            refine (Agree.right agree).mono fun topic found => List.mem_cons_of_mem _ ?_
            rw [bound]
            exact found
          dsimp only
          rw [energizeTargetW_congr _ agree, computeShares_congr _ _ shares]
      | _ => rfl

/-! `storage_spare` and `shed_task` -/

theorem moduleSpareW_congr {m : DistributeBinding} (locked : Finset String)
    (agree : Agree (substituteAll m.activePowerTopic.toList siteId ++ sharesReads m siteId)
      cache other) :
    moduleSpareW m siteId cache now locked = moduleSpareW m siteId other now locked := by
  have shares : Agree (sharesReads m siteId) cache other := agree.right
  unfold moduleSpareW
  cases active : m.activePowerTopic with
  | none => rfl
  | some template =>
      have same : reading cache (substituteSiteId template siteId) =
          reading other (substituteSiteId template siteId) := by
        refine agree.reading (List.mem_append_left _ (List.mem_map_of_mem ?_))
        exact Option.mem_toList.mpr active
      dsimp only
      rw [same, computeShares_congr _ locked shares]

theorem spareW_congr {modules : List DistributeBinding} (poiTopic : String) (locked : Finset String)
    (agree : Agree (spareReads modules siteId) cache other) :
    spareW modules poiTopic siteId cache now locked =
      spareW modules poiTopic siteId other now locked := by
  unfold spareW
  refine congrArg List.sum (List.map_congr_left fun m onPoi => ?_)
  refine moduleSpareW_congr locked (agree.mono fun topic found => ?_)
  exact List.mem_flatMap.mpr ⟨m, List.mem_of_mem_filter onPoi, found⟩

theorem shedInputs_congr {cfg : ShedTaskConfig} (storageSpareW : ℚ) (lastPoi : Option Instant)
    (agree : Agree (shedReads cfg) cache other) :
    shedInputs cfg cache storageSpareW lastPoi = shedInputs cfg other storageSpareW lastPoi := by
  have poi : cache cfg.poiTopic = other cfg.poiTopic := agree _ (by simp [shedReads])
  have importLimit : reading cache cfg.importLimitTopic = reading other cfg.importLimitTopic :=
    agree.reading (by simp [shedReads])
  have exportLimit : reading cache cfg.exportLimitTopic = reading other cfg.exportLimitTopic :=
    agree.reading (by simp [shedReads])
  unfold shedInputs
  rw [poi, importLimit, exportLimit]

/-! `synthetic` and `der_dispatch` -/

theorem fresh_congr {topics : List String} {topic : String} (staleLimits : StaleLimits)
    (agree : Agree topics cache other) (member : topic ∈ topics) :
    fresh cache staleLimits now topic = fresh other staleLimits now topic := by
  unfold fresh
  rw [agree topic member]

theorem gatherInputs_congr {topics : List String} (staleLimits : StaleLimits)
    (agree : Agree topics cache other) :
    gatherInputs topics cache staleLimits now = gatherInputs topics other staleLimits now := by
  refine mapM_congr_of_mem fun topic member => ?_
  rw [fresh_congr staleLimits agree member]

theorem gatherPairs_congr {pairs : List (String × ℚ)} (staleLimits : StaleLimits)
    (agree : Agree (pairs.map Prod.fst) cache other) :
    gatherPairs pairs cache staleLimits now = gatherPairs pairs other staleLimits now := by
  refine mapM_congr_of_mem fun pair member => ?_
  rw [fresh_congr staleLimits agree (List.mem_map_of_mem member)]

theorem sumCached_congr {topics : List String} (agree : Agree topics cache other) :
    sumCached topics cache = sumCached topics other := by
  unfold sumCached
  rw [mapM_congr_of_mem fun topic member => agree.reading member]

theorem posture_congr {topics : PostureTopics}
    (agree : Agree [topics.eventActive, topics.targetPresent, topics.target] cache other) :
    posture topics cache = posture topics other := by
  unfold posture
  rw [agree.reading (by simp : topics.eventActive ∈ _),
    agree.reading (by simp : topics.targetPresent ∈ _),
    agree.reading (by simp : topics.target ∈ _)]

theorem moduleCapacity_congr {channels : DeviceChannels} {deviceId : String} (target : ℚ)
    (locked : Finset String) (agree : Agree (boundsReads channels siteId deviceId) cache other) :
    moduleCapacity channels cache now siteId target locked deviceId =
      moduleCapacity channels other now siteId target locked deviceId := by
  unfold boundsReads at agree
  unfold moduleCapacity
  split
  · rename_i d resolved
    rw [resolved] at agree
    dsimp only at agree
    have soc := agree.reading (List.mem_cons_self ..)
    have limits : Agree (limitReads d.children siteId) cache other :=
      agree.mono fun topic found => List.mem_cons_of_mem _ found
    have racks : (unlockedChildren d locked).map (fun c => rackHeadroom c target siteId cache now) =
        (unlockedChildren d locked).map fun c => rackHeadroom c target siteId other now := by
      refine List.map_congr_left fun c isUnlocked => ?_
      exact rackHeadroom_congr target (limits_of_reads limits (List.mem_of_mem_filter isUnlocked))
    unfold moduleHeadroom
    rw [soc, racks]
  · rfl

theorem execute_congr {pending : Pending} (south : South)
    (agree : Agree (bindingReads pending.binding pending.env.siteId) cache other) :
    pending.execute cache now south = pending.execute other now south := by
  unfold Pending.execute executeSetpoint
  cases bound : pending.binding with
  | distribute d =>
      rw [bound] at agree
      unfold dispatchDistribute
      dsimp only
      rw [computeShares_congr _ _ agree]
  | sunspec bit => cases bit <;> rfl
  | _ => rfl

theorem handleCommand_congr {spec : SourceMaps} (locked : Finset String) (accepts : Broker)
    (south : South) (requested : Requested) (topic : String) (frame : Option CommandFrame)
    (agree : Agree (spec.commands.flatMap fun command => bindingReads command.2.binding siteId)
      cache other) :
    handleCommand ⟨siteId, spec.channels, locked⟩ accepts cache now south requested topic frame =
      handleCommand ⟨siteId, spec.channels, locked⟩ accepts other now south requested topic
        frame := by
  unfold handleCommand
  rcases beginCommand_cases ⟨siteId, spec.channels, locked⟩ accepts requested topic frame with
    ⟨result, settled⟩ | ⟨pending, answers, writing⟩
  · rw [settled]
  · obtain ⟨source, listed, bound⟩ := commands_of_channel answers.resolved
    have reads : Agree (bindingReads pending.binding pending.env.siteId) cache other := by
      rw [answers.sameEnv, ← bound]
      exact agree.mono fun topic found => List.mem_flatMap.mpr ⟨_, listed, found⟩
    rw [writing]
    dsimp only
    rw [execute_congr south reads]

/-! The tasks -/

def Task.LooksAlike (siteId : String) (cache other : InputCache) (task : Task) : Prop :=
  match task with
  | .synthetic (.operation _ topics) => ∀ staleLimits now,
      gatherInputs topics cache staleLimits now = gatherInputs topics other staleLimits now
  | .synthetic (.weightedMean pairs) => ∀ staleLimits now,
      gatherPairs pairs cache staleLimits now = gatherPairs pairs other staleLimits now
  | .envelope cfg => ∀ (state : TaskState) (input : TaskInput),
      tickOnce cfg state { input with siteId := siteId, cache := cache } =
        tickOnce cfg state { input with siteId := siteId, cache := other }
  | .shed cfg =>
      (∀ now locked, spareW cfg.storage cfg.poiTopic cfg.siteId cache now locked =
        spareW cfg.storage cfg.poiTopic cfg.siteId other now locked) ∧
      ∀ storageSpareW lastPoi, shedInputs cfg cache storageSpareW lastPoi =
        shedInputs cfg other storageSpareW lastPoi
  | .actualPower topics => sumCached topics cache = sumCached topics other
  | .siteDistribution topics spec =>
      posture topics cache = posture topics other ∧
      (∀ now target locked,
        modulesWithBounds (spec.commandSource.map Prod.fst) spec.channels cache now siteId target
            locked =
          modulesWithBounds (spec.commandSource.map Prod.fst) spec.channels other now siteId target
            locked) ∧
      ∀ locked accepts now south requested topic frame,
        handleCommand ⟨siteId, spec.channels, locked⟩ accepts cache now south requested topic
            frame =
          handleCommand ⟨siteId, spec.channels, locked⟩ accepts other now south requested topic
            frame

theorem looksAlike_of_reads {task : Task} (agree : Agree (task.reads siteId) cache other) :
    task.LooksAlike siteId cache other := by
  cases task with
  | synthetic computation =>
      cases computation with
      | operation operation topics =>
          exact fun staleLimits now => gatherInputs_congr staleLimits agree
      | weightedMean pairs => exact fun staleLimits now => gatherPairs_congr staleLimits agree
  | envelope cfg => exact fun state input => tickOnce_congr state input agree
  | shed cfg =>
      exact ⟨fun now locked => spareW_congr cfg.poiTopic locked (Agree.right agree),
        fun storageSpareW lastPoi => shedInputs_congr storageSpareW lastPoi agree⟩
  | actualPower topics => exact sumCached_congr agree
  | siteDistribution topics spec =>
      refine ⟨posture_congr (Agree.left (Agree.left agree)), ?_, ?_⟩
      · intro now target locked
        unfold modulesWithBounds
        refine congrArg (Option.map List.reduceOption) (mapM_congr_of_mem fun deviceId isId => ?_)
        obtain ⟨device, isDevice, rfl⟩ := List.mem_map.mp isId
        refine moduleCapacity_congr target locked ?_
        refine (Agree.right (Agree.left agree)).mono fun topic found => ?_
        exact List.mem_flatMap.mpr ⟨device, isDevice, found⟩
      · intro locked accepts now south requested topic frame
        exact handleCommand_congr locked accepts south requested topic frame (Agree.right agree)

/-- Whatever a cache holds besides the subscribed topics is nothing to any task. -/
theorem looksAlike_of_subscribed {spec : SourceMaps} {task : Task} (plainIds : PlainIds spec)
    (once : SubstitutesOnce spec siteId) (spawned : task ∈ spawnTaskSet spec siteId)
    (agree : Agree (inputTopics spec siteId) cache other) : task.LooksAlike siteId cache other := by
  refine looksAlike_of_reads (agree.mono fun topic read => ?_)
  exact mem_inputTopics_iff.mpr (taskReads_named plainIds once spawned read)

end EmsGateway.App
