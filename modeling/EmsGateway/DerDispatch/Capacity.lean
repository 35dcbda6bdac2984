import EmsGateway.Dispatch.Distribute
import EmsGateway.DerDispatch.SiteDistributionCore

/-!
Whether the two levels agree on what a module can give: the site splits its target by each
module's headroom, and a module then splits its share over the racks it can use. What a module
is given reaches its racks as a whole exactly when its headroom is no more than the room of the
racks it can use.
-/

namespace EmsGateway.DerDispatch

open EmsGateway.Asyncapi EmsGateway.Dispatch EmsGateway.Envelope EmsGateway.Library

section Capacity

variable (siteId : String) (world : TickWorld)

def siteModules (target : ℚ) : Option (List ChildCapacity) :=
  modulesWithBounds world.deviceIds world.channels world.cache world.now siteId target world.locked

def moduleShares (d : DistributeBinding) (share : ℚ) : Except String Shares :=
  computeShares d share siteId world.cache world.now world.locked

def rackRoom (d : DistributeBinding) (target : ℚ) : ℚ :=
  usableTotal d target siteId world.cache world.now world.locked

/-- Every module's rack shares add up to the share the site target gives the module. -/
def CapacityAgrees (target : ℚ) : Prop :=
  ∀ modules, siteModules siteId world target = some modules →
    ∀ moduleId share, (moduleId, share) ∈ allocate target modules .socWeighted →
      ∀ d, channelOf world.channels moduleId channelKey = some (.distribute d) →
        ∀ shares, moduleShares siteId world d share = .ok shares →
          |delivered shares - share| ≤ epsilon

/-- No module whose racks can be read has more headroom than its usable racks have room. -/
def RoomMatches (target : ℚ) : Prop :=
  ∀ modules, siteModules siteId world target = some modules →
    ∀ m ∈ modules, ∀ d, channelOf world.channels m.deviceId channelKey = some (.distribute d) →
      (moduleShares siteId world d target).isOk = true →
        max m.headroom 0 ≤ rackRoom siteId world d target + epsilon

structure Charged : Prop where
  modules : ∀ moduleId soc, reading world.cache (moduleSocTopic siteId moduleId) = some soc →
    0 ≤ soc ∧ soc ≤ 100
  racks : ∀ moduleId d, channelOf world.channels moduleId channelKey = some (.distribute d) →
    ∀ c ∈ d.children, ∀ soc, socReading siteId world.cache c = some soc → 0 ≤ soc ∧ soc ≤ 100

end Capacity

/-! Only the direction of the target matters to what a module or a rack has room for. -/

def SameDirection (target other : ℚ) : Prop := (target < 0 ↔ other < 0) ∧ (0 < target ↔ 0 < other)

theorem SameDirection.of_pos {target other : ℚ} (forward : 0 < target) (positive : 0 < other) :
    SameDirection target other :=
  ⟨iff_of_false (not_lt.mpr forward.le) (not_lt.mpr positive.le), iff_of_true forward positive⟩

theorem SameDirection.of_neg {target other : ℚ} (backward : target < 0) (negative : other < 0) :
    SameDirection target other :=
  ⟨iff_of_true backward negative, iff_of_false (not_lt.mpr backward.le) (not_lt.mpr negative.le)⟩

theorem SameDirection.of_sign {target magnitude : ℚ} (nonzero : target ≠ 0)
    (positive : 0 < magnitude) : SameDirection (signOf target * magnitude) target := by
  rcases lt_or_gt_of_ne nonzero with backward | forward
  · refine .of_neg ?_ backward
    rw [signOf, if_pos backward]
    linarith
  · refine .of_pos ?_ forward
    rw [signOf, if_neg (not_lt.mpr forward.le)]
    linarith

theorem SameDirection.trans {target between other : ℚ} (first : SameDirection target between)
    (second : SameDirection between other) : SameDirection target other :=
  ⟨first.1.trans second.1, first.2.trans second.2⟩

section Direction

variable {target other : ℚ} (same : SameDirection target other)

include same

theorem SameDirection.rackHeadroom (c : ChildAllocation) (siteId : String) (cache : InputCache)
    (now : Instant) :
    rackHeadroom c target siteId cache now = rackHeadroom c other siteId cache now := by
  have static : staticBound c target = staticBound c other := if_congr same.1 rfl rfl
  have live : liveLimit c target siteId cache now = liveLimit c other siteId cache now := by
    unfold liveLimit
    rw [decide_eq_decide.mpr same.1]
  unfold Dispatch.rackHeadroom
  rw [static, live]

theorem SameDirection.usableTotal (d : DistributeBinding) (siteId : String) (cache : InputCache)
    (now : Instant) (locked : Finset String) :
    usableTotal d target siteId cache now locked = usableTotal d other siteId cache now locked := by
  have floor : atReserveFloor d target siteId cache = atReserveFloor d other siteId cache := by
    funext c
    unfold atReserveFloor
    split
    · exact decide_eq_decide.mpr (and_congr_left fun _ => same.2)
    · rfl
  have cap : usableCap d target siteId cache now = usableCap d other siteId cache now := by
    funext c
    unfold usableCap
    rw [floor, same.rackHeadroom]
  unfold Dispatch.usableTotal
  rw [cap]

theorem SameDirection.siteModules (siteId : String) (world : TickWorld) :
    siteModules siteId world target = siteModules siteId world other := by
  have headroom : ∀ d powerMin powerMax,
      moduleHeadroom d powerMin powerMax target siteId world.cache world.now world.locked =
        moduleHeadroom d powerMin powerMax other siteId world.cache world.now world.locked := by
    intro d powerMin powerMax
    have static : (if target < 0 then |powerMin| else powerMax) =
        if other < 0 then |powerMin| else powerMax := if_congr same.1 rfl rfl
    unfold moduleHeadroom
    rw [static]
    simp only [same.rackHeadroom]
  have capacity : moduleCapacity world.channels world.cache world.now siteId target world.locked =
      moduleCapacity world.channels world.cache world.now siteId other world.locked := by
    funext deviceId
    unfold moduleCapacity
    simp only [headroom]
  unfold DerDispatch.siteModules modulesWithBounds
  rw [capacity]

end Direction

section Agreement

variable {siteId : String} {world : TickWorld} {target : ℚ} {modules : List ChildCapacity}

theorem mem_siteModules (found : siteModules siteId world target = some modules)
    {m : ChildCapacity} (member : m ∈ modules) :
    m.operatingState = .standby ∧
      reading world.cache (moduleSocTopic siteId m.deviceId) = some m.stateOfCharge := by
  unfold siteModules modulesWithBounds at found
  obtain ⟨results, traversed, rfl⟩ := Option.map_eq_some_iff.mp found
  obtain ⟨deviceId, _, capacity⟩ :=
    mapM_some_mem traversed (List.reduceOption_mem_iff.mp member)
  unfold moduleCapacity at capacity
  split at capacity
  · split at capacity
    · simp at capacity
    · split at capacity
      · obtain ⟨soc, read, same⟩ := Option.map_eq_some_iff.mp capacity
        rw [← Option.some.inj same]
        exact ⟨rfl, read⟩
      · simp at capacity
  · simp at capacity

theorem Charged.siteModules (charged : Charged siteId world)
    (found : siteModules siteId world target = some modules) :
    ∀ m ∈ modules, 0 ≤ m.stateOfCharge ∧ m.stateOfCharge ≤ 100 := by
  intro m member
  exact charged.modules m.deviceId m.stateOfCharge (mem_siteModules found member).2

theorem moduleShares_isOk (d : DistributeBinding) (share other : ℚ) :
    (moduleShares siteId world d share).isOk = (moduleShares siteId world d other).isOk :=
  computeShares_isOk d siteId world.cache world.now world.locked share other

theorem capacityAgrees_of_room (charged : Charged siteId world)
    (discharging : RoomMatches siteId world 1) (charging : RoomMatches siteId world (-1))
    (target : ℚ) : CapacityAgrees siteId world target := by
  intro modules found moduleId share allocated d binding shares computed
  refine (computeShares_met_iff (charged.racks moduleId d binding) computed).mpr ?_
  obtain ⟨m, member, _, identity, magnitude, shareIs, nonneg, capped, part⟩ :=
    allocate_share (charged.siteModules found) allocated
  simp only at identity shareIs
  rw [identity] at binding
  have absShare : |share| = magnitude := by
    rw [shareIs, abs_mul, abs_signOf, one_mul, abs_of_nonneg nonneg]
  rcases nonneg.eq_or_lt with none | positive
  · rw [absShare, ← none]
    exact add_nonneg usableTotal_nonneg epsilon_pos.le
  · have moves : target ≠ 0 := by
      rintro rfl
      rw [abs_zero] at part
      exact absurd positive (not_lt.mpr part)
    have along : SameDirection share target := by
      rw [shareIs]
      exact .of_sign moves positive
    have room : ∀ unit : ℚ, SameDirection target unit → RoomMatches siteId world unit →
        |share| ≤ usableTotal d share siteId world.cache world.now world.locked + epsilon := by
      intro unit same matching
      have readable : (moduleShares siteId world d unit).isOk = true := by
        rw [moduleShares_isOk d unit share, computed]
        rfl
      have enough := matching modules (by rw [← same.siteModules, found]) m member d binding
        readable
      rw [absShare, (along.trans same).usableTotal]
      exact capped.trans enough
    rcases lt_or_gt_of_ne moves with backward | forward
    · exact room (-1) (.of_neg backward (by norm_num)) charging
    · exact room 1 (.of_pos forward one_pos) discharging

theorem exists_full_target {modules : List ChildCapacity} {unit : ℚ}
    (charged : ∀ m ∈ modules, 0 ≤ m.stateOfCharge ∧ m.stateOfCharge ≤ 100) (nonzero : unit ≠ 0)
    {m : ChildCapacity} (member : m ∈ modules) (eligible : m.operatingState.isEligible = true) :
    ∃ target, SameDirection target unit ∧
      (m.deviceId, signOf target * max m.headroom 0) ∈ allocate target modules .socWeighted := by
  generalize capsAre : ((modules.filter fun c => c.operatingState.isEligible).map
    fun c => max c.headroom 0).sum = caps
  have capsNonneg : 0 ≤ caps := by
    rw [← capsAre]
    refine List.sum_nonneg ?_
    intro cap present
    obtain ⟨c, _, rfl⟩ := List.mem_map.mp present
    exact le_max_right _ _
  have past : 0 < caps + 2 * epsilon := by linarith [epsilon_pos]
  refine ⟨signOf unit * (caps + 2 * epsilon), .of_sign nonzero past, ?_⟩
  refine allocate_full charged ?_ member eligible
  rw [capsAre, abs_mul, abs_signOf, one_mul, abs_of_pos past]
  linarith [epsilon_pos]

theorem room_of_capacityAgrees (charged : Charged siteId world)
    (agrees : ∀ target, CapacityAgrees siteId world target) {unit : ℚ} (nonzero : unit ≠ 0) :
    RoomMatches siteId world unit := by
  intro modules found m member d binding readable
  rcases (le_max_right m.headroom 0).eq_or_lt with none | positive
  · rw [← none]
    exact add_nonneg usableTotal_nonneg epsilon_pos.le
  · obtain ⟨target, same, allocated⟩ :=
      exists_full_target (charged.siteModules found) nonzero member
        (by rw [(mem_siteModules found member).1]; rfl)
    have moves : target ≠ 0 := by
      rintro rfl
      rcases lt_or_gt_of_ne nonzero with backward | forward
      · exact lt_irrefl _ (same.1.mpr backward)
      · exact lt_irrefl _ (same.2.mpr forward)
    have along := (SameDirection.of_sign moves positive).trans same
    obtain ⟨shares, computed⟩ : ∃ shares,
        moduleShares siteId world d (signOf target * max m.headroom 0) = .ok shares :=
      exists_of_isOk (by rw [moduleShares_isOk d _ unit, readable])
    have met := agrees target modules (by rw [same.siteModules, found]) _ _ allocated d binding
      shares computed
    have room := (computeShares_met_iff (charged.racks _ d binding) computed).mp met
    rwa [abs_mul, abs_signOf, one_mul, abs_of_pos positive, along.usableTotal] at room

/-- What the site hands its modules reaches their racks as a whole, for every site target,
exactly when in both directions no module has more headroom than its usable racks have room. -/
theorem capacity_agrees_iff (charged : Charged siteId world) :
    (∀ target, CapacityAgrees siteId world target) ↔
      RoomMatches siteId world 1 ∧ RoomMatches siteId world (-1) := by
  constructor
  · intro agrees
    exact ⟨room_of_capacityAgrees charged agrees one_ne_zero,
      room_of_capacityAgrees charged agrees (by norm_num)⟩
  · rintro ⟨discharging, charging⟩ target
    exact capacityAgrees_of_room charged discharging charging target

end Agreement

/-! A module `m` over racks `r1` and another one. `r3` reports FAULT. -/

def moduleOver (racks : List ChildAllocation) : DistributeBinding :=
  { rackBinding racks with powerMin := some (-200), powerMax := some 200 }

def moduleWorld (racks : List ChildAllocation) : TickWorld :=
  { topics := ⟨"event", "present", "target"⟩
    deviceIds := ["m"]
    channels := fun deviceId =>
      if deviceId = "m" then some fun _ => some (.distribute (moduleOver racks)) else none
    cache := fun topic =>
      if topic = moduleSocTopic "s1" "m" then some (.number 50, 0) else rackCache topic
    now := 0
    locked := ∅ }

theorem moduleWorld_reading (racks : List ChildAllocation) {topic : String} {value : ℚ}
    (read : reading (moduleWorld racks).cache topic = some value) : 0 ≤ value ∧ value ≤ 100 := by
  have within : ∀ id ∈ ["r1", "r2", "r3", "r4"], 0 ≤ rackSoc id ∧ rackSoc id ≤ 100 := by
    decide +kernel
  unfold reading moduleWorld at read
  dsimp only at read
  split at read
  · simp only [Option.bind_some, asNumber, Option.some.injEq] at read
    rw [← read]
    norm_num
  · unfold rackCache at read
    split at read
    · simp [asNumber] at read
    · obtain ⟨entry, found, number⟩ := Option.bind_eq_some_iff.mp read
      obtain ⟨id, listed, rfl⟩ := Option.map_eq_some_iff.mp found
      simp only [asNumber, Option.some.injEq] at number
      rw [← number]
      exact within id (List.mem_of_find?_eq_some listed)

theorem moduleWorld_room {racks : List ChildAllocation} {unit headroom : ℚ}
    (found : siteModules "s1" (moduleWorld racks) unit = some [⟨"m", .standby, headroom, 50⟩])
    (room : max headroom 0 ≤ rackRoom "s1" (moduleWorld racks) (moduleOver racks) unit + epsilon) :
    RoomMatches "s1" (moduleWorld racks) unit := by
  intro modules same m member d binding _
  rw [found, Option.some.injEq] at same
  rw [← same, List.mem_singleton] at member
  have bound : channelOf (moduleWorld racks).channels "m" channelKey =
      some (.distribute (moduleOver racks)) := rfl
  rw [member, bound, Option.some.injEq, ProtocolBinding.distribute.injEq] at binding
  rw [member, ← binding]
  exact room

theorem capacity_agrees_over_sound_racks :
    siteModules "s1" (moduleWorld [rack "r1" 100, rack "r2" 100]) 1 =
        some [⟨"m", .standby, 200, 50⟩] ∧
      ∀ target, CapacityAgrees "s1" (moduleWorld [rack "r1" 100, rack "r2" 100]) target := by
  have discharging : siteModules "s1" (moduleWorld [rack "r1" 100, rack "r2" 100]) 1 =
      some [⟨"m", .standby, 200, 50⟩] := by decide +kernel
  have charging : siteModules "s1" (moduleWorld [rack "r1" 100, rack "r2" 100]) (-1) =
      some [⟨"m", .standby, 100, 50⟩] := by decide +kernel
  have charged : Charged "s1" (moduleWorld [rack "r1" 100, rack "r2" 100]) := by
    refine ⟨?_, ?_⟩
    · intro moduleId soc read
      exact moduleWorld_reading _ read
    · intro moduleId d binding c present soc read
      exact moduleWorld_reading _ read
  refine ⟨discharging, (capacity_agrees_iff charged).mpr ⟨?_, ?_⟩⟩
  · exact moduleWorld_room discharging (by decide +kernel)
  · exact moduleWorld_room charging (by decide +kernel)

/-- The module is handed 150 W on the strength of a rack that is in FAULT. -/
theorem capacity_counts_faulted_rack :
    ¬∀ (siteId : String) (world : TickWorld) (target : ℚ), CapacityAgrees siteId world target := by
  intro claimed
  have met := claimed "s1" (moduleWorld [rack "r1" 100, rack "r3" 100]) 150
    [⟨"m", .standby, 200, 50⟩] (by decide +kernel) "m" 150 (by decide +kernel)
    (moduleOver [rack "r1" 100, rack "r3" 100]) rfl [("r1", 100), ("r3", 0)] (by decide +kernel)
  revert met
  decide +kernel

end EmsGateway.DerDispatch
