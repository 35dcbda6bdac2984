import EmsGateway.Envelope.AntiWindup
import EmsGateway.Envelope.PlannedWrites
import EmsGateway.Envelope.Task
import EmsGateway.Library.Reservoir

/-!
The storage behind a module, steered by its rebalance task: what a rack last got is the most it
draws, and its charge falls by what it drew. A rack is told to stop when its reading is down at the
floor in force, and it stops at once or, in a handoff, one tick later. So no run takes a rack
further below its floor than two of its largest draws.
-/

namespace EmsGateway.Envelope

open EmsGateway.Asyncapi EmsGateway.Dispatch EmsGateway.Library EmsGateway.Library.Reservoir

/-! What a plan that lands leaves each child with -/

namespace WriteState

theorem afterPlan_lastWritten (state : WriteState) (shares : Shares) (now : Instant) :
    (state.afterPlan shares (some now)).lastWritten =
      applyWrites state.lastWritten (state.plannedWrites shares) := by
  unfold afterPlan plannedWrites
  have kept : (state.plan shares).1.lastWritten = state.lastWritten := by
    rw [plan_state, ordered_lastWritten]
  cases (state.plan shares).2 with
  | none => exact kept
  | some plan =>
      simp only [landed, kept]
      rfl

theorem mem_ordered_of_shrinks {state : WriteState} {changed : Shares} {share : String × ℚ}
    (member : share ∈ changed) (shrinks : growth state.lastWritten share < 0) :
    share ∈ (state.ordered changed).2 := by
  have sorted : share ∈ reductionsFirst changed state.lastWritten :=
    (List.mem_insertionSort _).mpr member
  unfold ordered
  rw [if_neg (by simpa using List.ne_nil_of_mem member)]
  dsimp only [handoffBatch]
  split
  · exact List.mem_filter.mpr ⟨sorted, decide_eq_true shrinks⟩
  · exact sorted

/-- The share lands, or the child keeps what it had: because that is next to the share already, or
because growth is held back and the share is no smaller. -/
theorem afterPlan_child {state : WriteState} {shares : Shares}
    (distinct : (shares.map Prod.fst).Nodup) {share : String × ℚ} (member : share ∈ shares)
    (now : Instant) :
    (state.afterPlan shares (some now)).lastWritten share.1 = some share.2 ∨
      (state.afterPlan shares (some now)).lastWritten share.1 = state.lastWritten share.1 ∧
        ((∃ last, state.lastWritten share.1 = some last ∧ |share.2 - last| < epsilon) ∨
          state.holdsBack shares = true ∧ 0 ≤ growth state.lastWritten share) := by
  rw [afterPlan_lastWritten]
  have keys := nodup_plannedWrites distinct state
  have lands : share ∈ (state.ordered (state.changed shares)).2 →
      applyWrites state.lastWritten (state.plannedWrites shares) share.1 = some share.2 := by
    intro sent
    refine applyWrites_of_nodup keys ?_
    rw [plannedWrites_eq]
    exact List.mem_append_left _ sent
  have lands_or_keeps : applyWrites state.lastWritten (state.plannedWrites shares) share.1 =
      some share.2 ∨ applyWrites state.lastWritten (state.plannedWrites shares) share.1 =
        state.lastWritten share.1 := by
    by_cases named : share.1 ∈ (state.plannedWrites shares).map Prod.fst
    · obtain ⟨value, planned, final⟩ : ∃ value, (share.1, value) ∈ state.plannedWrites shares ∧
          applyWrites state.lastWritten (state.plannedWrites shares) share.1 = some value :=
        applyWrites_of_mem named
      rcases mem_plannedWrites planned with fresh | ⟨_, held⟩
      · have same := List.inj_on_of_nodup_map distinct fresh member rfl
        rw [final, ← same]
        exact .inl rfl
      · exact .inr (final.trans held.symm)
    · exact .inr (applyWrites_of_notMem named)
  by_cases changes : share ∈ state.changed shares
  · cases back : state.holdsBack shares with
    | false => exact .inl (lands (mem_ordered_of_not_holdsBack back changes))
    | true =>
        rcases lt_or_ge (growth state.lastWritten share) 0 with shrinks | grows
        · exact .inl (lands (mem_ordered_of_shrinks changes shrinks))
        · exact lands_or_keeps.imp_right fun kept => ⟨kept, .inr ⟨rfl, grows⟩⟩
  · refine lands_or_keeps.imp_right fun kept => ⟨kept, .inl ?_⟩
    cases held : state.lastWritten share.1 with
    | none => exact absurd (List.mem_filter.mpr ⟨member, by simp [held]⟩) changes
    | some last =>
        refine ⟨last, rfl, ?_⟩
        by_contra far
        exact changes (List.mem_filter.mpr ⟨member, by simpa [held] using far⟩)

end WriteState

/-! A tick that computes its shares -/

theorem tickTarget_deferredGrowth {cfg : EnvelopeTaskConfig} {state steered : TaskState}
    {input : TaskInput} {raw : ℚ} (target : tickTarget cfg state input = some (steered, raw)) :
    steered.writes.deferredGrowth = state.writes.deferredGrowth := by
  unfold tickTarget at target
  dsimp only at target
  split at target
  · simp only [Option.some.injEq, Prod.mk.injEq] at target
    rw [← target.1]
  · simp only [Option.map_eq_some_iff, Prod.mk.injEq] at target
    obtain ⟨_, _, steeredIs, _⟩ := target
    rw [← steeredIs]

theorem computeShares_nodup {d : DistributeBinding} {target : ℚ} {siteId : String}
    {cache : InputCache} {now : Instant} {locked : Finset String} {shares : Shares}
    (distinct : (d.children.map ChildAllocation.deviceId).Nodup)
    (computed : computeShares d target siteId cache now locked = .ok shares) :
    (shares.map Prod.fst).Nodup := by
  obtain ⟨policy, children, resolved, rfl⟩ := computeShares_ok computed
  have nodupChildren : (children.map ChildCapacity.deviceId).Nodup := by
    rw [Resolves.ids resolved]
    exact distinct.sublist (List.filter_sublist.map _)
  apply nodup_foldl_addMissing
  rw [allocate_ids]
  exact nodupChildren.sublist (List.filter_sublist.map _)

theorem tickOnce_shares {cfg : EnvelopeTaskConfig} {d : DistributeBinding}
    (binding : cfg.binding = .distribute d) {state : TaskState} {input : TaskInput} {shares : Shares}
    (given : (tickOnce cfg state input).shares = some shares) (now : Instant) :
    ∃ (steered : TaskState) (raw : ℚ), steered.writes.lastWritten = state.writes.lastWritten ∧
      steered.writes.deferredGrowth = state.writes.deferredGrowth ∧
      computeShares d (energizeTargetW raw input.siteId input.cache) input.siteId input.cache
        input.now input.locked = .ok shares ∧
      (settleWrites (tickOnce cfg state input) (some now)).writes =
        steered.writes.afterPlan shares (some now) := by
  unfold tickOnce at given
  split at given
  · simp at given
  · rename_i steered raw target
    simp only [binding] at given
    cases computed : computeShares d (energizeTargetW raw input.siteId input.cache) input.siteId
        input.cache input.now input.locked with
    | error message => simp [computed] at given
    | ok found =>
        simp only [computed, Option.some.injEq] at given
        subst given
        refine ⟨steered, raw, tickTarget_lastWritten target, tickTarget_deferredGrowth target,
          computed, ?_⟩
        unfold tickOnce settleWrites WriteState.afterPlan
        simp only [target, binding, computed]
        cases (steered.writes.plan found).2 with
        | none => rfl
        | some plan => rfl

/-! The racks and what they draw -/

structure Plant where
  task : TaskState
  energyWh : String → ℚ
  elapsedHours : ℚ

/-- Until the next tick each rack delivers what the plan left it with, or as much as it does. -/
structure PlantTick where
  step : TaskStep
  drawnW : String → ℚ
  hours : ℚ

def Plant.step (cfg : EnvelopeTaskConfig) (plant : Plant) (tick : PlantTick) : Plant where
  task := settleWrites (tickOnce cfg plant.task tick.step.input) tick.step.landedAt
  energyWh := fun id => plant.energyWh id - tick.drawnW id * tick.hours
  elapsedHours := plant.elapsedHours + tick.hours

def Plant.heldW (plant : Plant) (id : String) : ℚ :=
  WriteState.heldBy plant.task.writes.lastWritten id

def Plant.outlet (plant : Plant) (id : String) : Outlet :=
  if plant.heldW id ≤ epsilon then .closed
  else if plant.task.writes.deferredGrowth then .closing else .opened

def Plant.store (plant : Plant) (id : String) : Store :=
  ⟨plant.energyWh id, plant.outlet id, plant.elapsedHours⟩

/-- `lagWh` is how far the charge may have fallen since it was measured. -/
structure RackReserve where
  capacityWh : ℚ
  floorPercent : ℚ
  lagWh : ℚ
  longestHours : ℚ

def RackReserve.limits (reserve : RackReserve) (c : ChildAllocation) : Limits where
  floor := reserve.floorPercent / 100 * reserve.capacityWh - reserve.lagWh
  largest := max 0 c.powerMax
  longest := reserve.longestHours
  trickle := epsilon

/-- The tick reaches the rack: it computes shares, all its writes land, the rack is not locked out,
its reading is at most the lag above its charge, and it draws no more than it was last told. -/
structure Reached (cfg : EnvelopeTaskConfig) (d : DistributeBinding) (c : ChildAllocation)
    (reserve : RackReserve) (plant : Plant) (tick : PlantTick) : Prop where
  computed : (tickOnce cfg plant.task tick.step.input).shares.isSome = true
  lands : tick.step.landedAt.isSome = true
  unlocked : c.deviceId ∉ tick.step.input.locked
  charged : ∀ other ∈ d.children, ∀ soc,
    socReading tick.step.input.siteId tick.step.input.cache other = some soc → 0 ≤ soc ∧ soc ≤ 100
  reported : ∃ soc, socReading tick.step.input.siteId tick.step.input.cache c = some soc ∧
    soc / 100 * reserve.capacityWh ≤ plant.energyWh c.deviceId + reserve.lagWh
  forward : 0 ≤ tick.hours
  soon : tick.hours ≤ reserve.longestHours
  drawn : tick.drawnW c.deviceId ≤ max 0 ((plant.step cfg tick).heldW c.deviceId)

/-- The tick reaches the rack with a floor in force. -/
structure Steered (cfg : EnvelopeTaskConfig) (d : DistributeBinding) (c : ChildAllocation)
    (reserve : RackReserve) (plant : Plant) (tick : PlantTick) : Prop
    extends Reached cfg d c reserve plant tick where
  floored : ∃ floor,
    effectiveFloorPercent d tick.step.input.siteId tick.step.input.cache = some floor ∧
      reserve.floorPercent ≤ floor

section Rack

variable {cfg : EnvelopeTaskConfig} {d : DistributeBinding} {c : ChildAllocation}
  {reserve : RackReserve} {plant : Plant} {tick : PlantTick}

/-- What a tick does to the rack: its share lands, or it keeps what it had, because that is next to
the share or because this tick, and not the one before, holds growth back. -/
theorem Steered.share (binding : cfg.binding = .distribute d)
    (distinct : (d.children.map ChildAllocation.deviceId).Nodup) (present : c ∈ d.children)
    (steered : Steered cfg d c reserve plant tick) :
    ∃ target share, ShareOf d target tick.step.input.siteId tick.step.input.cache
        tick.step.input.now c share ∧
      ((plant.step cfg tick).heldW c.deviceId = share ∨
        (plant.step cfg tick).heldW c.deviceId = plant.heldW c.deviceId ∧
          (|share - plant.heldW c.deviceId| < epsilon ∨
            plant.task.writes.deferredGrowth = false ∧
              (plant.step cfg tick).task.writes.deferredGrowth = true)) := by
  obtain ⟨shares, given⟩ := Option.isSome_iff_exists.mp steered.computed
  obtain ⟨now, landed⟩ := Option.isSome_iff_exists.mp steered.lands
  obtain ⟨before, raw, sameLast, sameFlag, computed, after⟩ := tickOnce_shares binding given now
  have keys := computeShares_nodup distinct computed
  have counted := (computeShares_safe distinct steered.charged computed).once c present
    steered.unlocked
  obtain ⟨share, member, identity⟩ :=
    List.mem_map.mp (List.count_pos_iff.mp (by rw [counted]; exact Nat.one_pos))
  obtain ⟨other, source, owner, owned⟩ := shareOf_of_mem steered.charged computed member
  obtain rfl := List.inj_on_of_nodup_map distinct (List.mem_filter.mp source).1 present
    (owner.trans identity)
  have next : (plant.step cfg tick).task.writes = before.writes.afterPlan shares (some now) := by
    rw [← after, ← landed]
    rfl
  refine ⟨_, share.2, owned, ?_⟩
  simp only [Plant.heldW, WriteState.heldBy, next, ← identity]
  rw [← sameLast, ← sameFlag]
  rcases WriteState.afterPlan_child keys member now with lands | ⟨kept, near | ⟨back, _⟩⟩
  · rw [lands]
    exact .inl rfl
  · obtain ⟨last, held, close⟩ := near
    rw [kept, held]
    exact .inr ⟨rfl, .inl close⟩
  · rw [kept]
    refine .inr ⟨rfl, .inr ⟨?_, ?_⟩⟩
    · by_contra set
      rw [WriteState.holdsBack_eq_false_of_deferred _ (by simpa using set)] at back
      exact absurd back Bool.false_ne_true
    · have changes : before.writes.changed shares ≠ [] := by
        intro unchanged
        simp [WriteState.holdsBack, unchanged] at back
      rw [WriteState.afterPlan_deferredGrowth, WriteState.plan_deferredGrowth, if_neg changes, back]

theorem shareOf_le_powerMax {target share : ℚ} {siteId : String} {cache : InputCache}
    {now : Instant} (owned : ShareOf d target siteId cache now c share) :
    share ≤ max 0 c.powerMax := by
  rcases owned.direction with zero | ⟨forward, _⟩ | ⟨_, backward⟩
  · rw [zero]
    exact le_max_left _ _
  · have bound := owned.abs_le.trans usableCap_le_static
    rw [staticBound, if_neg (not_lt.mpr forward.le)] at bound
    exact (le_abs_self share).trans bound
  · exact backward.le.trans (le_max_left _ _)

theorem Steered.share_nonpos {target share : ℚ} (sized : 0 < reserve.capacityWh)
    (steered : Steered cfg d c reserve plant tick)
    (owned : ShareOf d target tick.step.input.siteId tick.step.input.cache tick.step.input.now c
      share)
    (low : plant.energyWh c.deviceId ≤ (reserve.limits c).floor) : share ≤ 0 := by
  obtain ⟨soc, read, reported⟩ := steered.reported
  obtain ⟨floor, inForce, floored⟩ := steered.floored
  have charge : soc / 100 * reserve.capacityWh ≤ reserve.floorPercent / 100 * reserve.capacityWh := by
    simp only [RackReserve.limits] at low
    linarith
  have spent : soc ≤ floor := by
    have scaled := le_of_mul_le_mul_right charge sized
    linarith
  rcases owned.direction with zero | ⟨forward, _⟩ | ⟨_, backward⟩
  · exact zero.le
  · refine (owned.zero_of_reserved ?_).le
    simp [atReserveFloor, inForce, read, forward, spent]
  · exact backward.le

theorem Steered.held_le (binding : cfg.binding = .distribute d)
    (distinct : (d.children.map ChildAllocation.deviceId).Nodup) (present : c ∈ d.children)
    (steered : Steered cfg d c reserve plant tick)
    (before : plant.heldW c.deviceId ≤ max 0 c.powerMax) :
    (plant.step cfg tick).heldW c.deviceId ≤ max 0 c.powerMax := by
  obtain ⟨target, share, owned, lands | ⟨kept, _⟩⟩ := steered.share binding distinct present
  · rw [lands]
    exact shareOf_le_powerMax owned
  · rwa [kept]

theorem Steered.draws (binding : cfg.binding = .distribute d)
    (distinct : (d.children.map ChildAllocation.deviceId).Nodup) (present : c ∈ d.children)
    (sized : 0 < reserve.capacityWh) (steered : Steered cfg d c reserve plant tick)
    (before : plant.heldW c.deviceId ≤ max 0 c.powerMax) :
    Draws (reserve.limits c) (plant.store c.deviceId) ((plant.step cfg tick).store c.deviceId)
      (tick.drawnW c.deviceId) tick.hours := by
  have held := steered.held_le binding distinct present before
  refine ⟨rfl, rfl, steered.forward, steered.soon,
    steered.drawn.trans (max_le (le_max_left _ _) held), ?_⟩
  intro low
  obtain ⟨target, share, owned, moved⟩ := steered.share binding distinct present
  have stops := steered.share_nonpos sized owned low
  have shut : (plant.step cfg tick).heldW c.deviceId ≤ epsilon →
      (plant.step cfg tick).outlet c.deviceId = .closed ∧
        tick.drawnW c.deviceId ≤ (reserve.limits c).trickle := by
    intro small
    exact ⟨if_pos small, steered.drawn.trans (max_le epsilon_pos.le small)⟩
  rcases moved with lands | ⟨kept, near | ⟨clear, set⟩⟩
  · exact .inl (shut (by rw [lands]; exact stops.trans epsilon_pos.le))
  · refine .inl (shut ?_)
    rw [kept]
    have bounds := abs_lt.mp near
    linarith
  · by_cases small : plant.heldW c.deviceId ≤ epsilon
    · exact .inl (shut (by rwa [kept]))
    · refine .inr ⟨?_, ?_⟩
      · simp [Plant.store, Plant.outlet, small, clear]
      · simp [Plant.store, Plant.outlet, kept, small, set]

end Rack

theorem kept_along {cfg : EnvelopeTaskConfig} {d : DistributeBinding}
    (binding : cfg.binding = .distribute d)
    (distinct : (d.children.map ChildAllocation.deviceId).Nodup) {c : ChildAllocation}
    (present : c ∈ d.children) {reserve : RackReserve} (sized : 0 < reserve.capacityWh)
    (longest : 0 ≤ reserve.longestHours) {energyWh : String → ℚ} {ticks : List PlantTick}
    (start : reserve.floorPercent / 100 * reserve.capacityWh - reserve.lagWh ≤
      energyWh c.deviceId)
    (steered : Along (Plant.step cfg) (Steered cfg d c reserve) ⟨.initial, energyWh, 0⟩ ticks) :
    Kept (reserve.limits c) ((run (Plant.step cfg) ⟨.initial, energyWh, 0⟩ ticks).store
      c.deviceId) := by
  have largest : 0 ≤ (reserve.limits c).largest := le_max_left _ _
  have kept : Kept (reserve.limits c) ((⟨.initial, energyWh, 0⟩ : Plant).store c.deviceId) := by
    have nonneg := (Limits.below_le largest longest
      ((⟨.initial, energyWh, 0⟩ : Plant).outlet c.deviceId)).1
    have product := mul_nonneg largest longest
    have empty : (reserve.limits c).trickle * 0 = 0 := mul_zero _
    simp only [Kept, Plant.store, empty]
    simp only [RackReserve.limits] at nonneg product ⊢
    linarith
  exact (run_kept (fun plant : Plant => plant.store c.deviceId)
    (fun plant => plant.heldW c.deviceId ≤ max 0 c.powerMax) largest epsilon_pos.le
    (fun _ _ held allowed => allowed.held_le binding distinct present held)
    (fun _ tick held allowed => ⟨tick.drawnW c.deviceId, tick.hours,
      allowed.draws binding distinct present sized held⟩)
    (le_max_left _ _) kept le_rfl steered).1

/-- In every run that steers the rack it keeps its floor, but for how far its reading lags, two of
its largest draws and what it draws below the write threshold. -/
theorem reserve_floor_kept {cfg : EnvelopeTaskConfig} {d : DistributeBinding}
    (binding : cfg.binding = .distribute d)
    (distinct : (d.children.map ChildAllocation.deviceId).Nodup) {c : ChildAllocation}
    (present : c ∈ d.children) {reserve : RackReserve} (sized : 0 < reserve.capacityWh)
    (longest : 0 ≤ reserve.longestHours) {energyWh : String → ℚ} {ticks : List PlantTick}
    (start : reserve.floorPercent / 100 * reserve.capacityWh - reserve.lagWh ≤
      energyWh c.deviceId)
    (steered : Along (Plant.step cfg) (Steered cfg d c reserve) ⟨.initial, energyWh, 0⟩ ticks) :
    let reached := run (Plant.step cfg) ⟨.initial, energyWh, 0⟩ ticks
    reserve.floorPercent / 100 * reserve.capacityWh - reserve.lagWh -
        2 * (max 0 c.powerMax * reserve.longestHours) - epsilon * reached.elapsedHours ≤
      reached.energyWh c.deviceId :=
  (kept_along binding distinct present sized longest start steered).level_ge (le_max_left _ _)
    longest

/-! The operator's reserve over the whole module -/

structure SiteReserve where
  reserveWh : ℚ
  siteCapacityWh : ℚ
  rackWh : String → ℚ
  lagWh : String → ℚ
  longestHours : ℚ

def SiteReserve.rack (site : SiteReserve) (c : ChildAllocation) : RackReserve where
  capacityWh := site.rackWh c.deviceId
  floorPercent := site.reserveWh / site.siteCapacityWh * 100
  lagWh := site.lagWh c.deviceId
  longestHours := site.longestHours

def SiteReserve.Asked (site : SiteReserve) (d : DistributeBinding) (input : TaskInput) : Prop :=
  ∃ template value, d.operatorReserveTopic = some template ∧
    reading input.cache (substituteSiteId template input.siteId) = some value ∧
      site.reserveWh ≤ value

theorem SiteReserve.Asked.floored {site : SiteReserve} {d : DistributeBinding} {input : TaskInput}
    (asked : site.Asked d input) (capacity : d.siteCapacityWh = some site.siteCapacityWh)
    (sized : 0 < site.siteCapacityWh) (fits : site.reserveWh ≤ site.siteCapacityWh) :
    ∃ floor, effectiveFloorPercent d input.siteId input.cache = some floor ∧
      site.reserveWh / site.siteCapacityWh * 100 ≤ floor := by
  obtain ⟨template, value, topic, cached, enough⟩ := asked
  have percent : operatorReservePercent d input.siteId input.cache =
      some (max 0 (min (value / site.siteCapacityWh * 100) 100)) := by
    obtain ⟨entry, found, number⟩ := Option.bind_eq_some_iff.mp cached
    have kept : Option.filter (fun c => decide (0 < c)) (some site.siteCapacityWh) =
        some site.siteCapacityWh := Option.filter_some_pos (decide_eq_true sized)
    simp [operatorReservePercent, capacity, kept, topic, found, number]
  have bound : site.reserveWh / site.siteCapacityWh * 100 ≤
      max 0 (min (value / site.siteCapacityWh * 100) 100) := by
    refine le_max_of_le_right (le_min ?_ ?_)
    · have scaled := div_le_div_of_nonneg_right enough sized.le
      linarith
    · have whole := (div_le_one sized).mpr fits
      linarith
  unfold effectiveFloorPercent
  rw [percent]
  cases d.stateOfChargeFloorPercent with
  | none => exact ⟨_, rfl, bound⟩
  | some supplier => exact ⟨_, rfl, le_max_of_le_right bound⟩

/-- While the operator asks for a reserve, and the racks hold the site's capacity between them, the
module keeps that much energy, but for what each rack may be below its own part. -/
theorem operator_reserve_kept {cfg : EnvelopeTaskConfig} {d : DistributeBinding}
    (binding : cfg.binding = .distribute d)
    (distinct : (d.children.map ChildAllocation.deviceId).Nodup) {site : SiteReserve}
    (sized : ∀ c ∈ d.children, 0 < site.rackWh c.deviceId)
    (capacity : d.siteCapacityWh = some site.siteCapacityWh) (positive : 0 < site.siteCapacityWh)
    (whole : (d.children.map fun c => site.rackWh c.deviceId).sum = site.siteCapacityWh)
    (fits : site.reserveWh ≤ site.siteCapacityWh) (longest : 0 ≤ site.longestHours)
    {energyWh : String → ℚ} {ticks : List PlantTick}
    (start : ∀ c ∈ d.children, (site.rack c).floorPercent / 100 * site.rackWh c.deviceId -
      site.lagWh c.deviceId ≤ energyWh c.deviceId)
    (steered : Along (Plant.step cfg) (fun plant tick => site.Asked d tick.step.input ∧
      ∀ c ∈ d.children, Reached cfg d c (site.rack c) plant tick) ⟨.initial, energyWh, 0⟩ ticks) :
    let reached := run (Plant.step cfg) ⟨.initial, energyWh, 0⟩ ticks
    site.reserveWh - (d.children.map fun c => site.lagWh c.deviceId +
        2 * (max 0 c.powerMax * site.longestHours) + epsilon * reached.elapsedHours).sum ≤
      (d.children.map fun c => reached.energyWh c.deviceId).sum := by
  intro reached
  have each : ∀ c ∈ d.children, site.reserveWh / site.siteCapacityWh * site.rackWh c.deviceId ≤
      reached.energyWh c.deviceId + (site.lagWh c.deviceId +
        2 * (max 0 c.powerMax * site.longestHours) + epsilon * reached.elapsedHours) := by
    intro c present
    have sizedRack : 0 < (site.rack c).capacityWh := sized c present
    have kept := (kept_along binding distinct present sizedRack longest (start c present)
      (Along.imp (fun _ _ holds => ⟨holds.2 c present,
        holds.1.floored capacity positive fits⟩) steered)).level_ge (le_max_left _ _) longest
    simp only [SiteReserve.rack, RackReserve.limits, Plant.store] at kept
    have same : site.reserveWh / site.siteCapacityWh * 100 / 100 =
        site.reserveWh / site.siteCapacityWh := by ring
    rw [same] at kept
    linarith
  have parts : site.reserveWh =
      (d.children.map fun c => site.reserveWh / site.siteCapacityWh * site.rackWh c.deviceId).sum := by
    rw [List.sum_map_mul_left, whole, div_mul_cancel₀ _ positive.ne']
  have total := List.sum_le_sum each
  rw [← parts, List.sum_map_add] at total
  linarith

/-! One rack of 100 Wh discharges at 36 W and meets the operator's 20 Wh -/

def reserveCache (soc : ℚ) : InputCache := fun topic =>
  if topic = "sites/s1/r1/state" then some (.str "STANDBY", 0)
  else if topic = "sites/s1/r1/soc" then some (.number soc, 0)
  else if topic = "sites/s1/reserve" then some (.number 20, 0)
  else none

def reserveBinding : DistributeBinding :=
  { allocationPolicy := "soc_weighted"
    children := [rack "r1" 100]
    operatorReserveTopic := some "sites/\x7bsite_id\x7d/reserve"
    siteCapacityWh := some 100 }

def reserveTask : EnvelopeTaskConfig := ⟨"m", "set_active_power", none, .distribute reserveBinding⟩

def reserveTick (soc drawn : ℚ) : PlantTick where
  step := {
    input := {
      dt := Duration.fromSecs 1
      now := 0
      siteId := "s1"
      cache := reserveCache soc
      requested := fun _ => some 36
      locked := ∅ }
    landedAt := some 0 }
  drawnW := fun _ => drawn
  hours := 1 / 36

def oneRackReserve : SiteReserve := ⟨20, 100, fun _ => 100, fun _ => 0, 1 / 36⟩

def reserveStart : Plant := ⟨.initial, fun _ => 21, 0⟩

theorem reached_reserveTick {plant : Plant} {soc drawn : ℚ}
    (computed : (tickOnce reserveTask plant.task (reserveTick soc drawn).step.input).shares.isSome =
      true)
    (read : socReading "s1" (reserveCache soc) (rack "r1" 100) = some soc)
    (within : 0 ≤ soc ∧ soc ≤ 100) (measured : soc ≤ plant.energyWh "r1")
    (drawnIs : drawn ≤ max 0 ((plant.step reserveTask (reserveTick soc drawn)).heldW "r1")) :
    Reached reserveTask reserveBinding (rack "r1" 100) (oneRackReserve.rack (rack "r1" 100)) plant
      (reserveTick soc drawn) where
  computed := computed
  lands := rfl
  unlocked := Finset.notMem_empty _
  charged := by
    intro other present reported found
    obtain rfl := List.mem_singleton.mp present
    obtain rfl := Option.some.inj (read.symm.trans found)
    exact within
  reported := by
    refine ⟨soc, read, ?_⟩
    have same : soc / 100 * 100 = soc := by ring
    simpa [oneRackReserve, SiteReserve.rack, rack, same] using measured
  forward := by norm_num [reserveTick]
  soon := le_rfl
  drawn := drawnIs

theorem reached_reserveRun : Along (Plant.step reserveTask) (fun plant tick =>
    oneRackReserve.Asked reserveBinding tick.step.input ∧ ∀ c ∈ reserveBinding.children,
      Reached reserveTask reserveBinding c (oneRackReserve.rack c) plant tick) reserveStart
    [reserveTick 21 36, reserveTick 20 0] := by
  have asked : ∀ soc drawn, oneRackReserve.Asked reserveBinding (reserveTick soc drawn).step.input :=
    fun soc drawn => ⟨_, 20, rfl, by
      have topic : substituteSiteId "sites/\x7bsite_id\x7d/reserve" "s1" = "sites/s1/reserve" := by
        decide +kernel
      simp [reserveTick, topic, reading, reserveCache, asNumber], le_rfl⟩
  refine ⟨⟨asked 21 36, ?_⟩, ⟨asked 20 0, ?_⟩, trivial⟩
  · intro c present
    obtain rfl := List.mem_singleton.mp present
    exact reached_reserveTick (by decide +kernel) (by decide +kernel) (by norm_num)
      (by norm_num [reserveStart]) (by decide +kernel)
  · intro c present
    obtain rfl := List.mem_singleton.mp present
    exact reached_reserveTick (by decide +kernel) (by decide +kernel) (by norm_num)
      (by decide +kernel) (by decide +kernel)

theorem reserve_floor_kept_one_rack :
    let reached := run (Plant.step reserveTask) reserveStart [reserveTick 21 36, reserveTick 20 0]
    reached.energyWh "r1" = 20 ∧
      20 / 100 * 100 - 0 - 2 * (max 0 100 * (1 / 36)) - epsilon * reached.elapsedHours ≤
        reached.energyWh "r1" := by
  intro reached
  have sized : 0 < (oneRackReserve.rack (rack "r1" 100)).capacityWh := by decide +kernel
  have steered : Along (Plant.step reserveTask) (Steered reserveTask reserveBinding (rack "r1" 100)
      (oneRackReserve.rack (rack "r1" 100))) reserveStart [reserveTick 21 36, reserveTick 20 0] :=
    Along.imp (fun _ _ holds => ⟨holds.2 _ List.mem_cons_self,
      holds.1.floored rfl (by decide +kernel) (by decide +kernel)⟩) reached_reserveRun
  have kept := reserve_floor_kept (rfl : reserveTask.binding = .distribute reserveBinding)
    (by decide) List.mem_cons_self sized (by decide +kernel) (by decide +kernel) steered
  have percent : (oneRackReserve.rack (rack "r1" 100)).floorPercent = 20 := by decide +kernel
  dsimp only at kept
  rw [percent] at kept
  exact ⟨by decide +kernel, kept⟩

theorem operator_reserve_kept_one_rack :
    let reached := run (Plant.step reserveTask) reserveStart [reserveTick 21 36, reserveTick 20 0]
    20 - ([rack "r1" 100].map fun c => oneRackReserve.lagWh c.deviceId +
        2 * (max 0 c.powerMax * oneRackReserve.longestHours) +
          epsilon * reached.elapsedHours).sum ≤
      ([rack "r1" 100].map fun c => reached.energyWh c.deviceId).sum :=
  operator_reserve_kept (rfl : reserveTask.binding = .distribute reserveBinding) (by decide)
    (by decide +kernel) rfl (by decide +kernel) (by decide +kernel) (by decide +kernel)
    (by decide +kernel) (by decide +kernel) reached_reserveRun

end EmsGateway.Envelope
