import EmsGateway.Envelope.ShedCore
import EmsGateway.Library.KeyedWrites
import EmsGateway.Library.Rounding
import EmsGateway.Library.Runs

/-!
What the GPUs hold while the shed task runs. A child is undercut when it holds less than its
operator's percentage gives; only a controller whose own percentage is below 100 can raise it
again.
-/

namespace EmsGateway.Envelope

open EmsGateway.Asyncapi EmsGateway.Dispatch EmsGateway.Library EmsGateway.Loto

namespace ShedController

theorem tick_fst (c : ShedController) (t : ShedTick) : (c.tick t).1 = (c.target t).1 := by
  unfold tick
  dsimp only
  cases c.target t with
  | mk next steered =>
      cases steered with
      | none => rfl
      | some target => exact apply_ite Prod.fst _ _ _ |>.trans (ite_self _)

theorem tick_percent (c : ShedController) (t : ShedTick) : (c.tick t).1.percent = c.percent := by
  rw [tick_fst]
  unfold target reset
  dsimp only
  split_ifs <;> rfl

theorem tick_proposed_le {c : ShedController} {t : ShedTick} {percent : ℚ}
    (proposed : (c.tick t).2 = some percent) : percent ≤ t.requestedPercent := by
  unfold tick at proposed
  dsimp only at proposed
  split at proposed
  · simp at proposed
  · split at proposed
    · simp at proposed
    · rename_i bounds
      rw [not_or, not_lt] at bounds
      simp only [Option.ite_none_right_eq_some, Option.some.injEq] at proposed
      rw [← proposed.2]
      exact max_le bounds.2 (min_le_right _ _)

end ShedController

/-! Caps of single children -/

def limitKey (c : CapChild) : String × String := (c.deviceId, "set_" ++ c.target)

def childCap (c : CapChild) (percent : ℚ) : ℚ :=
  wholeWatts (max c.minW (min (c.maxW * percent / 100) c.maxW))

def operatorPercent (requested : Requested) (m : CapModule) : ℚ :=
  (requested (m.deviceId, m.channelKey)).getD 100

@[simp] theorem operatorPercent_record (requested : Requested) (m : CapModule) (percent : ℚ) :
    operatorPercent (record requested m.deviceId m.channelKey percent).1 m = percent := by
  simp only [operatorPercent, record, Function.update_self, Option.getD_some]

theorem roundHalfAway_eq (x : ℚ) : roundHalfAway x = Library.roundHalfAway x := by
  unfold roundHalfAway Library.roundHalfAway
  simp only [round_eq]

theorem roundHalfAway_mono {x y : ℚ} (le : x ≤ y) : roundHalfAway x ≤ roundHalfAway y := by
  rw [roundHalfAway_eq, roundHalfAway_eq]
  exact Library.roundHalfAway_mono le

theorem wholeWatts_mono {x y : ℚ} (le : x ≤ y) : wholeWatts x ≤ wholeWatts y := by
  have rounded : roundHalfAway (x * 1000000) ≤ roundHalfAway (y * 1000000) :=
    roundHalfAway_mono (by linarith)
  have divided : (roundHalfAway (x * 1000000) : ℚ) / 1000000 ≤
      (roundHalfAway (y * 1000000) : ℚ) / 1000000 := by
    have cast : (roundHalfAway (x * 1000000) : ℚ) ≤ roundHalfAway (y * 1000000) := by
      exact_mod_cast rounded
    linarith
  have ceiled : ⌈(roundHalfAway (x * 1000000) : ℚ) / 1000000⌉ ≤
      ⌈(roundHalfAway (y * 1000000) : ℚ) / 1000000⌉ := Int.ceil_le_ceil divided
  exact Int.cast_le.mpr ceiled

theorem childCap_le_full (c : CapChild) (percent : ℚ) :
    childCap c percent ≤ childCap c (min 100 percent) := by
  rcases le_total percent 100 with le | ge
  · rw [min_eq_right le]
  · rw [min_eq_left ge]
    have full : c.maxW * 100 / 100 = c.maxW := by ring
    refine wholeWatts_mono (max_le_max le_rfl (le_min ?_ (min_le_right _ _)))
    rw [full]
    exact min_le_right _ _

/-- The power caps behind one POI; no limit belongs to two of its children. -/
structure ShedGroup extends ShedTaskConfig where
  distinctModules : (modules.map fun m => (m.deviceId, m.channelKey)).Nodup
  distinctLimits : (modules.flatMap fun m => m.binding.children.map limitKey).Nodup

/-! Which caps of a batch land -/

abbrev HeldCaps := String × String → Option ℚ

def capWrite (cap : String × String × ℚ) : (String × String) × ℚ := ((cap.1, cap.2.1), cap.2.2)

section Landing

variable (channels : DeviceChannels) (locked : Finset String) (south : South)

def landsCap (cap : String × String × ℚ) : Bool :=
  decide (cap.1 ∉ locked) && (failedCap channels south cap).isNone

def allLand (caps : List (String × String × ℚ)) : Bool :=
  (writeCaps caps channels locked south).result.isOk

def heldAfter (held : HeldCaps) (caps : List (String × String × ℚ)) : HeldCaps :=
  applyWrites held ((caps.filter (landsCap channels locked south)).map capWrite)

variable {channels locked south} {held : HeldCaps} {caps : List (String × String × ℚ)}

theorem landsCap_of_allLand (all : allLand channels locked south caps = true)
    {cap : String × String × ℚ} (member : cap ∈ caps) (unlocked : cap.1 ∉ locked) :
    landsCap channels locked south cap = true := by
  unfold allLand writeCaps at all
  dsimp only at all
  split at all
  · rename_i noneFailed
    rw [List.isEmpty_iff, List.filterMap_eq_nil_iff] at noneFailed
    have landed := noneFailed cap (List.mem_filter.mpr ⟨member, by simpa using unlocked⟩)
    simp [landsCap, unlocked, landed]
  · simp [Except.isOk, Except.toBool] at all

theorem heldAfter_of_distinct (distinct : (caps.map fun cap => (cap.1, cap.2.1)).Nodup)
    {cap : String × String × ℚ} (member : cap ∈ caps) :
    heldAfter channels locked south held caps (cap.1, cap.2.1) =
      if landsCap channels locked south cap then some cap.2.2 else held (cap.1, cap.2.1) := by
  split
  · rename_i lands
    have keys : (((caps.filter (landsCap channels locked south)).map capWrite).map
        Prod.fst).Nodup := by
      rw [List.map_map]
      exact distinct.sublist (List.filter_sublist.map _)
    exact applyWrites_of_nodup keys
      (List.mem_map_of_mem (f := capWrite) (List.mem_filter.mpr ⟨member, lands⟩))
  · rename_i stays
    refine applyWrites_of_notMem ?_
    intro named
    obtain ⟨write, written, same⟩ := List.mem_map.mp named
    obtain ⟨other, kept, rfl⟩ := List.mem_map.mp written
    obtain ⟨present, lands⟩ := List.mem_filter.mp kept
    rw [List.inj_on_of_nodup_map distinct present member same] at lands
    exact stays lands

theorem heldAfter_of_notMem {key : String × String}
    (absent : key ∉ caps.map fun cap => (cap.1, cap.2.1)) :
    heldAfter channels locked south held caps key = held key := by
  refine applyWrites_of_notMem ?_
  intro named
  rw [List.map_map] at named
  exact absent ((List.filter_sublist.map _).subset named)

end Landing

theorem childCaps_keys (binding : PowerCapBinding) (percent : ℚ) :
    ((childCaps binding percent).map fun cap => (cap.1, cap.2.1)) =
      binding.children.map limitKey := by
  simp only [childCaps, List.map_map]
  rfl

theorem mem_childCaps {binding : PowerCapBinding} {c : CapChild} (child : c ∈ binding.children)
    (percent : ℚ) :
    (c.deviceId, "set_" ++ c.target, childCap c percent) ∈ childCaps binding percent :=
  List.mem_map.mpr ⟨c, child, rfl⟩

namespace ShedGroup

variable (group : ShedGroup)

theorem moduleCaps_keys (percent : ℚ) (requested : Requested) :
    (moduleCaps group.modules percent requested).map (fun cap => (cap.1, cap.2.1)) =
      group.modules.flatMap fun m => m.binding.children.map limitKey := by
  unfold moduleCaps
  rw [List.map_flatMap]
  congr 1
  funext m
  exact childCaps_keys m.binding _

theorem moduleCaps_distinct (percent : ℚ) (requested : Requested) :
    ((moduleCaps group.modules percent requested).map fun cap => (cap.1, cap.2.1)).Nodup := by
  rw [group.moduleCaps_keys]
  exact group.distinctLimits

variable {group}

theorem childCaps_distinct {m : CapModule} (present : m ∈ group.modules) (percent : ℚ) :
    ((childCaps m.binding percent).map fun cap => (cap.1, cap.2.1)).Nodup := by
  rw [childCaps_keys]
  exact (List.nodup_flatMap.mp group.distinctLimits).1 m present

theorem mem_moduleCaps {m : CapModule} (present : m ∈ group.modules) {c : CapChild}
    (child : c ∈ m.binding.children) (percent : ℚ) (requested : Requested) :
    (c.deviceId, "set_" ++ c.target, childCap c (min percent (operatorPercent requested m))) ∈
      moduleCaps group.modules percent requested :=
  List.mem_flatMap.mpr ⟨m, present, mem_childCaps child _⟩

theorem limit_unique {m other : CapModule} (present : m ∈ group.modules)
    (otherPresent : other ∈ group.modules) {c child : CapChild} (member : c ∈ m.binding.children)
    (otherMember : child ∈ other.binding.children) (same : limitKey c = limitKey child) :
    m = other := by
  by_contra apart
  have symmetric : Std.Symm (Function.onFun List.Disjoint fun m : CapModule =>
      m.binding.children.map limitKey) := ⟨fun _ _ disjoint => disjoint.symm⟩
  have disjoint := (List.nodup_flatMap.mp group.distinctLimits).2.forall present otherPresent apart
  exact disjoint (List.mem_map_of_mem member) (same ▸ List.mem_map_of_mem otherMember)

theorem operatorPercent_record_other {m other : CapModule} (present : m ∈ group.modules)
    (otherPresent : other ∈ group.modules) (apart : other ≠ m) (requested : Requested)
    (percent : ℚ) :
    operatorPercent (record requested m.deviceId m.channelKey percent).1 other =
      operatorPercent requested other := by
  have otherKey : (other.deviceId, other.channelKey) ≠ (m.deviceId, m.channelKey) := by
    intro sameKey
    exact apart (List.inj_on_of_nodup_map group.distinctModules otherPresent present sameKey)
  simp only [operatorPercent, record, Function.update_of_ne otherKey]

section Held

variable {channels : DeviceChannels} {locked : Finset String} {south : South} {held : HeldCaps}
  {m : CapModule} (present : m ∈ group.modules) {c : CapChild}

include present

theorem heldAfter_moduleCaps (child : c ∈ m.binding.children) (percent : ℚ)
    (requested : Requested) :
    heldAfter channels locked south held (moduleCaps group.modules percent requested)
        (limitKey c) =
      if landsCap channels locked south (c.deviceId, "set_" ++ c.target,
          childCap c (min percent (operatorPercent requested m))) then
        some (childCap c (min percent (operatorPercent requested m)))
      else held (limitKey c) :=
  heldAfter_of_distinct (group.moduleCaps_distinct percent requested)
    (mem_moduleCaps present child percent requested)

theorem heldAfter_childCaps (child : c ∈ m.binding.children) (percent : ℚ) :
    heldAfter channels locked south held (childCaps m.binding percent) (limitKey c) =
      if landsCap channels locked south (c.deviceId, "set_" ++ c.target, childCap c percent) then
        some (childCap c percent)
      else held (limitKey c) :=
  heldAfter_of_distinct (childCaps_distinct present percent) (mem_childCaps child percent)

theorem heldAfter_childCaps_other {other : CapModule} (otherPresent : other ∈ group.modules)
    (apart : other ≠ m) (child : c ∈ other.binding.children) (percent : ℚ) :
    heldAfter channels locked south held (childCaps m.binding percent) (limitKey c) =
      held (limitKey c) := by
  refine heldAfter_of_notMem ?_
  rw [childCaps_keys]
  intro named
  obtain ⟨mine, member, same⟩ := List.mem_map.mp named
  exact apart (limit_unique present otherPresent member child same).symm

end Held

end ShedGroup

/-! Runs of the shed task, with operator commands and locks in between -/

structure ShedRun where
  controller : ShedController
  lastPoi : Option Instant
  requested : Requested
  locked : Finset String
  held : HeldCaps

inductive ShedStep where
  | tick (cache : InputCache) (now : Instant) (channels : DeviceChannels) (south : South)
  | command (m : CapModule) (percent : ℚ) (channels : DeviceChannels) (south : South)
  | apply (fresh : Finset String)

namespace ShedRun

def start (group : ShedGroup) (requested : Requested) (locked : Finset String) : ShedRun :=
  ⟨.new group.control, none, requested, locked, fun _ => none⟩

def propose (group : ShedGroup) (s : ShedRun) (cache : InputCache) (now : Instant) :
    ShedRun × Option ℚ :=
  let spare := spareW group.storage group.poiTopic group.siteId cache now s.locked
  match shedInputs group.toShedTaskConfig cache spare s.lastPoi with
  | none => (s, none)
  | some (t, receivedAt) =>
      let ticked := s.controller.tick t
      ({ s with controller := ticked.1, lastPoi := some receivedAt }, ticked.2)

def writeShed (group : ShedGroup) (s : ShedRun) (percent : ℚ) (channels : DeviceChannels)
    (south : South) : ShedRun :=
  let caps := moduleCaps group.modules percent s.requested
  { s with
    held := heldAfter channels s.locked south s.held caps
    controller :=
      if allLand channels s.locked south caps then s.controller.confirm percent
      else s.controller }

/-- A command that fails takes its request back, and one on a locked module is rejected. -/
def writeCommand (group : ShedGroup) (s : ShedRun) (m : CapModule) (percent : ℚ)
    (channels : DeviceChannels) (south : South) : ShedRun :=
  if m ∈ group.modules ∧ m.deviceId ∉ s.locked then
    let caps := childCaps m.binding percent
    { s with
      held := heldAfter channels s.locked south s.held caps
      requested :=
        if allLand channels s.locked south caps then
          (record s.requested m.deviceId m.channelKey percent).1
        else s.requested }
  else s

def step (group : ShedGroup) (s : ShedRun) : ShedStep → ShedRun
  | .tick cache now channels south =>
      match s.propose group cache now with
      | (next, none) => next
      | (next, some percent) => next.writeShed group percent channels south
  | .command m percent channels south => s.writeCommand group m percent channels south
  | .apply fresh => { s with locked := fresh }

end ShedRun

def Shedding (c : ShedController) : Prop := ∃ percent, c.percent = some percent ∧ percent < 100

def Undercut (s : ShedRun) (m : CapModule) (c : CapChild) : Prop :=
  c.deviceId ∉ s.locked ∧ ∃ watts, s.held (limitKey c) = some watts ∧
    watts < childCap c (operatorPercent s.requested m)

def Reversible (group : ShedGroup) (s : ShedRun) : Prop :=
  ∀ m ∈ group.modules, ∀ c ∈ m.binding.children, Undercut s m c → Shedding s.controller

def LandsBelow (s : ShedRun) (channels : DeviceChannels) (south : South) (m : CapModule)
    (c : CapChild) (percent : ℚ) : Prop :=
  landsCap channels s.locked south (c.deviceId, "set_" ++ c.target, childCap c percent) = true ∧
    childCap c percent < childCap c (operatorPercent s.requested m)

/-- While the controller does not shed: a batch that fails lands nowhere below an operator's
cap, and no lock is taken off a child that is held below one. -/
def ForgetsNoCut (group : ShedGroup) (s : ShedRun) : ShedStep → Prop
  | .tick cache now channels south => ∀ percent, (s.propose group cache now).2 = some percent →
      allLand channels s.locked south (moduleCaps group.modules percent s.requested) = false →
      ¬Shedding s.controller → ∀ m ∈ group.modules, ∀ c ∈ m.binding.children,
        ¬LandsBelow s channels south m c (min percent (operatorPercent s.requested m))
  | .command m percent channels south => m ∈ group.modules → m.deviceId ∉ s.locked →
      allLand channels s.locked south (childCaps m.binding percent) = false →
      ¬Shedding s.controller → ∀ c ∈ m.binding.children, ¬LandsBelow s channels south m c percent
  | .apply fresh => ¬Shedding s.controller → ∀ m ∈ group.modules, ∀ c ∈ m.binding.children,
      c.deviceId ∈ s.locked → c.deviceId ∉ fresh → ∀ watts, s.held (limitKey c) = some watts →
        childCap c (operatorPercent s.requested m) ≤ watts

section Steps

variable {group : ShedGroup} {s : ShedRun}

theorem ShedRun.propose_keeps (group : ShedGroup) (s : ShedRun) (cache : InputCache)
    (now : Instant) :
    (s.propose group cache now).1.controller.percent = s.controller.percent ∧
      (s.propose group cache now).1.requested = s.requested ∧
      (s.propose group cache now).1.locked = s.locked ∧
      (s.propose group cache now).1.held = s.held := by
  unfold ShedRun.propose
  dsimp only
  split
  · exact ⟨rfl, rfl, rfl, rfl⟩
  · exact ⟨ShedController.tick_percent _ _, rfl, rfl, rfl⟩

theorem ShedRun.proposed_le {cache : InputCache} {now : Instant} {percent : ℚ}
    (proposed : (s.propose group cache now).2 = some percent) : percent ≤ 100 := by
  unfold ShedRun.propose at proposed
  dsimp only at proposed
  split at proposed
  · simp at proposed
  · rename_i t receivedAt inputs
    have asked : t.requestedPercent = 100 := by
      unfold shedInputs at inputs
      simp only [Option.bind_eq_bind, Option.bind_eq_some_iff, pure, Option.some.injEq,
        Prod.mk.injEq] at inputs
      obtain ⟨_, _, _, _, _, _, _, _, _, _, tickIs, _⟩ := inputs
      rw [← tickIs]
    rw [← asked]
    exact ShedController.tick_proposed_le proposed

theorem reversible_of_allLand {percent : ℚ} (most : percent ≤ 100) {channels : DeviceChannels}
    {south : South}
    (all : allLand channels s.locked south (moduleCaps group.modules percent s.requested) = true) :
    Reversible group (s.writeShed group percent channels south) := by
  -- A shed batch that lands as a whole either cuts under a controller that then sheds, or leaves
  -- no child below its operator's cap.
  intro m present c child undercut
  simp only [Undercut, ShedRun.writeShed, all, if_true] at undercut ⊢
  rcases most.lt_or_eq with below | full
  · exact ⟨percent, rfl, below⟩
  · obtain ⟨unlocked, watts, holds, less⟩ := undercut
    have member := ShedGroup.mem_moduleCaps present child percent s.requested
    rw [group.heldAfter_moduleCaps present child, landsCap_of_allLand all member unlocked,
      if_pos rfl, Option.some.injEq, full] at holds
    rw [← holds] at less
    exact absurd less (not_lt.mpr (childCap_le_full c _))

theorem unlocked_of_landsCap {channels : DeviceChannels} {locked : Finset String} {south : South}
    {cap : String × String × ℚ} (lands : landsCap channels locked south cap = true) :
    cap.1 ∉ locked := by
  unfold landsCap at lands
  exact of_decide_eq_true (Bool.and_eq_true_iff.mp lands).1

theorem writeShed_reversible {percent : ℚ} (most : percent ≤ 100) (channels : DeviceChannels)
    (south : South) (before : Reversible group s) :
    Reversible group (s.writeShed group percent channels south) ↔
      (allLand channels s.locked south (moduleCaps group.modules percent s.requested) = false →
        ¬Shedding s.controller → ∀ m ∈ group.modules, ∀ c ∈ m.binding.children,
          ¬LandsBelow s channels south m c (min percent (operatorPercent s.requested m))) := by
  cases all : allLand channels s.locked south (moduleCaps group.modules percent s.requested) with
  | true => exact iff_of_true (reversible_of_allLand most all) fun failed => by simp at failed
  | false =>
      simp only [forall_const]
      unfold Reversible Undercut
      simp only [ShedRun.writeShed, all, Bool.false_eq_true, if_false]
      constructor
      · intro after notShedding m present c child below
        refine notShedding (after m present c child ⟨unlocked_of_landsCap below.1, _, ?_, below.2⟩)
        rw [group.heldAfter_moduleCaps present child, if_pos below.1]
      · intro none m present c child undercut
        obtain ⟨unlocked, watts, holds, less⟩ := undercut
        by_contra notShedding
        rw [group.heldAfter_moduleCaps present child] at holds
        split at holds
        · rename_i lands
          rw [← Option.some.inj holds] at less
          exact none notShedding m present c child ⟨lands, less⟩
        · exact notShedding (before m present c child ⟨unlocked, watts, holds, less⟩)

theorem writeCommand_reversible {m : CapModule} {percent : ℚ} (present : m ∈ group.modules)
    (accepted : m.deviceId ∉ s.locked) (channels : DeviceChannels) (south : South)
    (before : Reversible group s) :
    Reversible group (s.writeCommand group m percent channels south) ↔
      (allLand channels s.locked south (childCaps m.binding percent) = false →
        ¬Shedding s.controller → ∀ c ∈ m.binding.children,
          ¬LandsBelow s channels south m c percent) := by
  unfold Reversible Undercut
  simp only [ShedRun.writeCommand, present, accepted, not_false_eq_true, and_self, if_true]
  cases all : allLand channels s.locked south (childCaps m.binding percent) with
  | true =>
      refine iff_of_true ?_ fun failed => by simp at failed
      intro other otherPresent c child undercut
      obtain ⟨unlocked, watts, holds, less⟩ := undercut
      simp only [if_true] at less
      by_cases same : other = m
      · subst same
        have member := mem_childCaps child percent
        rw [group.heldAfter_childCaps present child,
          if_pos (landsCap_of_allLand all member unlocked)] at holds
        rw [← Option.some.inj holds, operatorPercent_record] at less
        exact absurd less (lt_irrefl _)
      · rw [group.heldAfter_childCaps_other present otherPresent same child] at holds
        rw [group.operatorPercent_record_other present otherPresent same] at less
        exact before other otherPresent c child ⟨unlocked, watts, holds, less⟩
  | false =>
      simp only [forall_const, Bool.false_eq_true, if_false]
      constructor
      · intro after notShedding c child below
        refine notShedding (after m present c child ⟨unlocked_of_landsCap below.1, _, ?_, below.2⟩)
        rw [group.heldAfter_childCaps present child, if_pos below.1]
      · intro none other otherPresent c child undercut
        obtain ⟨unlocked, watts, holds, less⟩ := undercut
        by_contra notShedding
        refine notShedding (before other otherPresent c child ⟨unlocked, watts, ?_, less⟩)
        by_cases same : other = m
        · subst same
          rw [group.heldAfter_childCaps present child] at holds
          split at holds
          · rename_i lands
            rw [← Option.some.inj holds] at less
            exact absurd ⟨lands, less⟩ (none notShedding c child)
          · exact holds
        · rwa [group.heldAfter_childCaps_other present otherPresent same child] at holds

theorem apply_reversible (fresh : Finset String) (before : Reversible group s) :
    Reversible group { s with locked := fresh } ↔
      (¬Shedding s.controller → ∀ m ∈ group.modules, ∀ c ∈ m.binding.children,
        c.deviceId ∈ s.locked → c.deviceId ∉ fresh → ∀ watts, s.held (limitKey c) = some watts →
          childCap c (operatorPercent s.requested m) ≤ watts) := by
  constructor
  · intro after notShedding m present c child _ released watts holds
    by_contra less
    exact notShedding (after m present c child ⟨released, watts, holds, not_le.mp less⟩)
  · intro kept m present c child undercut
    obtain ⟨released, watts, holds, less⟩ := undercut
    by_contra notShedding
    by_cases locked : c.deviceId ∈ s.locked
    · exact absurd less
        (not_lt.mpr (kept notShedding m present c child locked released watts holds))
    · exact notShedding (before m present c child ⟨locked, watts, holds, less⟩)

theorem reversible_step (group : ShedGroup) (s : ShedRun) (step : ShedStep)
    (before : Reversible group s) :
    Reversible group (s.step group step) ↔ ForgetsNoCut group s step := by
  cases step with
  | tick cache now channels south =>
      obtain ⟨percentIs, requestedIs, lockedIs, heldIs⟩ :=
        ShedRun.propose_keeps group s cache now
      have kept : Reversible group (s.propose group cache now).1 := by
        unfold Reversible Undercut Shedding
        rw [percentIs, requestedIs, lockedIs, heldIs]
        exact before
      unfold ForgetsNoCut
      simp only [ShedRun.step]
      cases proposed : s.propose group cache now with
      | mk next proposal =>
          rw [proposed] at percentIs requestedIs lockedIs kept
          dsimp only at percentIs requestedIs lockedIs kept
          cases proposal with
          | none => exact iff_of_true kept (by simp)
          | some percent =>
              have isProposed : (s.propose group cache now).2 = some percent := by
                rw [proposed]
              refine (writeShed_reversible (ShedRun.proposed_le isProposed) channels south
                kept).trans ?_
              simp only [Option.some.injEq, forall_eq', LandsBelow, Shedding, percentIs,
                requestedIs, lockedIs]
  | command m percent channels south =>
      by_cases accepted : m ∈ group.modules ∧ m.deviceId ∉ s.locked
      · refine (writeCommand_reversible accepted.1 accepted.2 channels south before).trans ?_
        simp [ForgetsNoCut, accepted]
      · refine iff_of_true ?_ ?_
        · simp only [ShedRun.step, ShedRun.writeCommand, if_neg accepted]
          exact before
        · intro present unlocked
          exact absurd ⟨present, unlocked⟩ accepted
  | apply fresh => exact apply_reversible fresh before

/-- After every step of a run a child is held below its operator's cap only while the controller
sheds, exactly when no step of the run forgets a cut. -/
theorem shed_reversible_iff (group : ShedGroup) (requested : Requested) (locked : Finset String)
    (steps : List ShedStep) :
    Along (ShedRun.step group) (fun s step => Reversible group (s.step group step))
        (.start group requested locked) steps ↔
      Along (ShedRun.step group) (ForgetsNoCut group) (.start group requested locked) steps := by
  refine along_iff (Reversible group) (reversible_step group) ?_
  intro m _ c _ undercut
  obtain ⟨_, watts, holds, _⟩ := undercut
  exact absurd holds (by simp [ShedRun.start])

end Steps

/-! Two GPUs of 1000 W behind a POI that imports 1000 W over its limit, with no storage. -/

def gpu (deviceId : String) : CapChild := ⟨deviceId, "power_limit", 200, 1000⟩

def computeModule : CapModule :=
  ⟨"m", "set_power_cap", { children := [gpu "g1", gpu "g2"] }⟩

def computeGroup : ShedGroup :=
  { modules := [computeModule]
    control := ⟨1 / 10, 1 / 20, 0⟩
    poiTopic := "poi"
    importLimitTopic := "import_limit"
    exportLimitTopic := "export_limit"
    storage := []
    siteId := "s1"
    distinctModules := by decide
    distinctLimits := by decide }

def overImport : InputCache := fun topic =>
  if topic = "poi" then some (.number 1000, 0)
  else if topic = "import_limit" ∨ topic = "export_limit" then some (.number 0, 0)
  else none

def redfishChannels : DeviceChannels := fun _ => some fun _ => some .redfish

def partialTick : ShedStep :=
  .tick overImport 0 redfishChannels fun write =>
    if write.deviceId = "g2" then .error "timeout" else .ok ()

/-- The first cut, to 90 percent, reaches `g1` and fails on `g2`: `g1` holds 900 W and the
controller still counts as never having written. -/
theorem cut_forgotten_after_partial_write :
    ¬∀ (group : ShedGroup) (requested : Requested) (locked : Finset String)
      (steps : List ShedStep),
      Along (ShedRun.step group) (fun s step => Reversible group (s.step group step))
        (.start group requested locked) steps := by
  intro claimed
  have reversible := (claimed computeGroup (fun _ => none) ∅ [partialTick]).1
  obtain ⟨percent, written, _⟩ := reversible computeModule (by decide) (gpu "g1") (by decide)
    ⟨by decide +kernel, 900, by decide +kernel, by decide +kernel⟩
  have never : ((ShedRun.start computeGroup (fun _ => none) ∅).step computeGroup
      partialTick).controller.percent = none := by decide +kernel
  rw [never] at written
  exact absurd written (by simp)

end EmsGateway.Envelope
