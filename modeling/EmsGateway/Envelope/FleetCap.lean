import EmsGateway.Envelope.Shed
import EmsGateway.Library.Queues

/-!
Two writers of the same GPU limits: the shed task writes the smaller of its own and each
operator's percentage, a command on a compute module writes the operator's. Every write of a
batch lands in a step of its own and in any order; all of them succeed. What a child is due is
set by the percentage the shed is at, or on its way to, and by its operator's.
-/

namespace EmsGateway.Envelope

open EmsGateway.Asyncapi EmsGateway.Dispatch EmsGateway.Library EmsGateway.Loto

abbrev Caps := List (String × String × ℚ)

structure FleetRun where
  controller : ShedController
  requested : Requested
  locked : Finset String
  held : HeldCaps
  shed : Option ℚ
  shedPending : Caps
  commandPending : Caps

inductive FleetStep where
  | shedTick (t : ShedTick)
  | landShed (index : ℕ)
  | confirm
  | command (m : CapModule) (percent : ℚ)
  | landCommand (index : ℕ)
  | apply (fresh : Finset String)

def unlockedCaps (locked : Finset String) (caps : Caps) : Caps :=
  caps.filter fun cap => cap.1 ∉ locked

def landOne (held : HeldCaps) (cap : String × String × ℚ) : HeldCaps :=
  Function.update held (cap.1, cap.2.1) (some cap.2.2)

namespace FleetRun

def start (group : ShedGroup) (requested : Requested) (locked : Finset String) : FleetRun :=
  { controller := .new group.control
    requested := requested
    locked := locked
    held := applyWrites (fun _ => none) ((moduleCaps group.modules 100 requested).map capWrite)
    shed := none
    shedPending := []
    commandPending := [] }

/-- The task waits for its own writes before it ticks again, and a command keeps the locked set
from changing until its last write. -/
def step (group : ShedGroup) (s : FleetRun) : FleetStep → FleetRun
  | .shedTick t =>
      match s.shed, s.controller.tick t with
      | some _, _ => s
      | none, (next, none) => { s with controller := next }
      | none, (next, some percent) =>
          { s with
            controller := next
            shed := some percent
            shedPending := unlockedCaps s.locked (moduleCaps group.modules percent s.requested) }
  | .landShed index =>
      match s.shedPending[index]? with
      | some cap =>
          { s with held := landOne s.held cap, shedPending := s.shedPending.eraseIdx index }
      | none => s
  | .confirm =>
      match s.shed, s.shedPending with
      | some percent, [] => { s with controller := s.controller.confirm percent, shed := none }
      | _, _ => s
  | .command m percent =>
      if m ∈ group.modules ∧ m.deviceId ∉ s.locked then
        { s with
          requested := (record s.requested m.deviceId m.channelKey percent).1
          commandPending :=
            s.commandPending ++ unlockedCaps s.locked (childCaps m.binding percent) }
      else s
  | .landCommand index =>
      match s.commandPending[index]? with
      | some cap =>
          { s with held := landOne s.held cap, commandPending := s.commandPending.eraseIdx index }
      | none => s
  | .apply fresh => if s.commandPending.isEmpty then { s with locked := fresh } else s

def pending (s : FleetRun) : Caps := s.shedPending ++ s.commandPending

def sitePercent (s : FleetRun) : ℚ := (s.shed.or s.controller.percent).getD 100

def due (s : FleetRun) (m : CapModule) (c : CapChild) : ℚ :=
  childCap c (min s.sitePercent (operatorPercent s.requested m))

end FleetRun

/-- With nothing in flight, every unlocked child is at the smaller of the confirmed and its
operator's percentage. -/
def CapsAgree (group : ShedGroup) (s : FleetRun) : Prop :=
  s.shed = none → s.pending = [] → ∀ m ∈ group.modules, ∀ c ∈ m.binding.children,
    c.deviceId ∉ s.locked → s.held (limitKey c) =
      some (childCap c (min (s.controller.percent.getD 100) (operatorPercent s.requested m)))

def hasKey (c : CapChild) (cap : String × String × ℚ) : Bool :=
  decide ((cap.1, cap.2.1) = limitKey c)

/-- The shed proposes a change only with no write in flight; a command comes with none in flight
to its own children and asks for no more than the shed leaves; and a child whose lock is taken
off already holds what it is due. -/
def InTurn (group : ShedGroup) (s : FleetRun) : FleetStep → Prop
  | .shedTick t => s.shed = none → (s.controller.tick t).2.isSome = true → s.pending = []
  | .command m percent => m ∈ group.modules → m.deviceId ∉ s.locked →
      ∀ c ∈ m.binding.children, s.pending.any (hasKey c) = false ∧
        childCap c percent = childCap c (min s.sitePercent percent)
  | .apply fresh => ∀ m ∈ group.modules, ∀ c ∈ m.binding.children,
      c.deviceId ∈ s.locked → c.deviceId ∉ fresh → s.held (limitKey c) = some (s.due m c)
  | _ => True

instance (group : ShedGroup) (s : FleetRun) (step : FleetStep) :
    Decidable (InTurn group s step) :=
  match step with
  | .shedTick _ => inferInstanceAs (Decidable (_ → _ → _))
  | .command _ _ => inferInstanceAs (Decidable (_ → _ → _))
  | .apply _ => inferInstanceAs (Decidable (∀ m ∈ _, ∀ c ∈ _, _ → _ → _))
  | .landShed _ => .isTrue trivial
  | .confirm => .isTrue trivial
  | .landCommand _ => .isTrue trivial

/-- Every write in flight carries what its child is due, and an unlocked child without one holds
it already. -/
structure Converges (group : ShedGroup) (s : FleetRun) : Prop where
  inFlight : ∀ m ∈ group.modules, ∀ c ∈ m.binding.children, ∀ cap ∈ s.pending,
    hasKey c cap = true → cap.2.2 = s.due m c
  reached : ∀ m ∈ group.modules, ∀ c ∈ m.binding.children, c.deviceId ∉ s.locked →
    s.held (limitKey c) = some (s.due m c) ∨ s.pending.any (hasKey c) = true

section Converging

variable {group : ShedGroup} {s : FleetRun} {m : CapModule} {c : CapChild}

theorem ShedGroup.moduleCaps_value (present : m ∈ group.modules) (child : c ∈ m.binding.children)
    {percent : ℚ} {requested : Requested} {cap : String × String × ℚ}
    (member : cap ∈ moduleCaps group.modules percent requested) (keyed : hasKey c cap = true) :
    cap.2.2 = childCap c (min percent (operatorPercent requested m)) := by
  have own := mem_moduleCaps present child percent requested
  have distinct := group.moduleCaps_distinct percent requested
  have same := List.inj_on_of_nodup_map distinct member own (of_decide_eq_true keyed)
  rw [same]

theorem ShedGroup.childCaps_value (present : m ∈ group.modules) {other : CapModule}
    (otherPresent : other ∈ group.modules) (child : c ∈ other.binding.children) {percent : ℚ}
    {cap : String × String × ℚ} (member : cap ∈ childCaps m.binding percent)
    (keyed : hasKey c cap = true) : other = m ∧ cap.2.2 = childCap c percent := by
  obtain ⟨mine, mineChild, rfl⟩ := List.mem_map.mp member
  have sameKey : limitKey mine = limitKey c := of_decide_eq_true keyed
  have sameModule : other = m :=
    (group.limit_unique present otherPresent mineChild child sameKey).symm
  refine ⟨sameModule, ?_⟩
  subst sameModule
  have distinct := (List.nodup_flatMap.mp group.distinctLimits).1 other present
  rw [List.inj_on_of_nodup_map distinct mineChild child sameKey]
  rfl

theorem any_hasKey_of_mem {caps : Caps} {locked : Finset String} {percent : ℚ}
    (unlocked : c.deviceId ∉ locked)
    (member : (c.deviceId, "set_" ++ c.target, childCap c percent) ∈ caps) :
    (unlockedCaps locked caps).any (hasKey c) = true := by
  refine List.any_eq_true.mpr ⟨_, List.mem_filter.mpr ⟨member, ?_⟩, ?_⟩
  · simpa using unlocked
  · exact decide_eq_true rfl

theorem Converges.land (converges : Converges group s) {next : FleetRun}
    {cap : String × String × ℚ} (landed : next.held = landOne s.held cap)
    (rest : s.pending.Perm (cap :: next.pending))
    (sameDue : next.due = s.due) (sameLocked : next.locked = s.locked) :
    Converges group next := by
  have sent : cap ∈ s.pending := rest.mem_iff.mpr List.mem_cons_self
  refine ⟨?_, ?_⟩
  · intro m present c child other member keyed
    rw [sameDue]
    exact converges.inFlight m present c child other
      (rest.mem_iff.mpr (List.mem_cons_of_mem _ member)) keyed
  · intro m present c child unlocked
    rw [sameDue, landed, landOne]
    by_cases own : hasKey c cap = true
    · left
      have key : (cap.1, cap.2.1) = limitKey c := of_decide_eq_true own
      rw [← key, Function.update_self, converges.inFlight m present c child cap sent own]
    · have apart : limitKey c ≠ (cap.1, cap.2.1) := by
        intro same
        exact own (decide_eq_true same.symm)
      rw [Function.update_of_ne apart]
      rcases converges.reached m present c child (sameLocked ▸ unlocked) with holds | pending
      · exact .inl holds
      · right
        obtain ⟨other, member, keyed⟩ := List.any_eq_true.mp pending
        rcases List.mem_cons.mp (rest.mem_iff.mp member) with rfl | stays
        · exact absurd keyed own
        · exact List.any_eq_true.mpr ⟨other, stays, keyed⟩

theorem Converges.start (group : ShedGroup) (requested : Requested) (locked : Finset String) :
    Converges group (.start group requested locked) := by
  refine ⟨?_, ?_⟩
  · intro m _ c _ cap member
    simp [FleetRun.pending, FleetRun.start] at member
  · intro m present c child _
    left
    have keys : (((moduleCaps group.modules 100 requested).map capWrite).map Prod.fst).Nodup := by
      rw [List.map_map]
      exact group.moduleCaps_distinct 100 requested
    have own := ShedGroup.mem_moduleCaps present child 100 requested
    exact applyWrites_of_nodup keys (List.mem_map_of_mem (f := capWrite) own)

theorem Converges.shedTick (converges : Converges group s) (t : ShedTick)
    (inTurn : InTurn group s (.shedTick t)) : Converges group (s.step group (.shedTick t)) := by
  unfold FleetRun.step
  dsimp only
  split
  · exact converges
  · rename_i next idle ticked
    have percentIs : next.percent = s.controller.percent := by
      rw [← ShedController.tick_percent s.controller t, ticked]
    have sameDue : FleetRun.due { s with controller := next } = s.due := by
      funext m c
      simp only [FleetRun.due, FleetRun.sitePercent, percentIs]
    exact ⟨by rw [sameDue]; exact converges.inFlight, by rw [sameDue]; exact converges.reached⟩
  · rename_i next percent idle ticked
    have none := inTurn idle (by rw [ticked]; rfl)
    have noCommand : s.commandPending = [] := (List.append_eq_nil_iff.mp none).2
    refine ⟨?_, ?_⟩
    · intro m present c child cap member keyed
      rw [FleetRun.pending, noCommand, List.append_nil] at member
      exact group.moduleCaps_value present child (List.mem_filter.mp member).1 keyed
    · intro m present c child unlocked
      right
      rw [FleetRun.pending, noCommand, List.append_nil]
      exact any_hasKey_of_mem unlocked
        (ShedGroup.mem_moduleCaps present child percent s.requested)

theorem Converges.command (converges : Converges group s) (present : m ∈ group.modules)
    (accepted : m.deviceId ∉ s.locked) {percent : ℚ}
    (inTurn : InTurn group s (.command m percent)) :
    Converges group (s.step group (.command m percent)) := by
  simp only [FleetRun.step, present, accepted, not_false_eq_true, and_self, if_true]
  refine ⟨?_, ?_⟩
  · intro other otherPresent c child cap member keyed
    simp only [FleetRun.pending, ← List.append_assoc] at member
    rcases List.mem_append.mp member with earlier | new
    · by_cases same : other = m
      · subst same
        have quiet := (inTurn present accepted c child).1
        have busy : s.pending.any (hasKey c) = true :=
          List.any_eq_true.mpr ⟨cap, earlier, keyed⟩
        rw [quiet] at busy
        exact absurd busy Bool.false_ne_true
      · have before := converges.inFlight other otherPresent c child cap earlier keyed
        rw [before, FleetRun.due, FleetRun.due,
          group.operatorPercent_record_other present otherPresent same]
        rfl
    · obtain ⟨rfl, value⟩ :=
        group.childCaps_value present otherPresent child (List.mem_filter.mp new).1 keyed
      rw [value, (inTurn present accepted c child).2, FleetRun.due, operatorPercent_record]
      rfl
  · intro other otherPresent c child unlocked
    simp only [FleetRun.pending, ← List.append_assoc, List.any_append, Bool.or_eq_true]
    by_cases same : other = m
    · subst same
      exact .inr (.inr (any_hasKey_of_mem unlocked (mem_childCaps child percent)))
    · rcases converges.reached other otherPresent c child unlocked with holds | pending
      · left
        rw [holds, FleetRun.due, FleetRun.due,
          group.operatorPercent_record_other present otherPresent same]
        rfl
      · simp only [FleetRun.pending, List.any_append, Bool.or_eq_true] at pending
        exact .inr (.inl pending)

theorem Converges.step (group : ShedGroup) (s : FleetRun) (step : FleetStep)
    (converges : Converges group s) (inTurn : InTurn group s step) :
    Converges group (s.step group step) := by
  cases step with
  | shedTick t => exact converges.shedTick t inTurn
  | landShed index =>
      simp only [FleetRun.step]
      split
      · rename_i cap found
        have taken := perm_cons_eraseIdx found
        exact converges.land rfl (taken.append_right s.commandPending) rfl rfl
      · exact converges
  | confirm =>
      simp only [FleetRun.step]
      split
      · rename_i percent shedIs empty
        have sameDue : FleetRun.due { s with
            controller := s.controller.confirm percent, shed := none } = s.due := by
          funext m c
          simp only [FleetRun.due, FleetRun.sitePercent, shedIs, ShedController.confirm,
            Option.none_or, Option.some_or]
        exact ⟨by rw [sameDue]; exact converges.inFlight, by rw [sameDue]; exact converges.reached⟩
      · exact converges
  | command m percent =>
      by_cases accepted : m ∈ group.modules ∧ m.deviceId ∉ s.locked
      · exact converges.command accepted.1 accepted.2 inTurn
      · simp only [FleetRun.step, if_neg accepted]
        exact converges
  | landCommand index =>
      simp only [FleetRun.step]
      split
      · rename_i cap found
        have taken := perm_cons_eraseIdx found
        exact converges.land rfl ((taken.append_left s.shedPending).trans List.perm_middle)
          rfl rfl
      · exact converges
  | apply fresh =>
      simp only [FleetRun.step]
      split
      · refine ⟨converges.inFlight, ?_⟩
        intro m present c child released
        by_cases locked : c.deviceId ∈ s.locked
        · exact .inl (inTurn m present c child locked released)
        · exact converges.reached m present c child locked
      · exact converges

theorem Converges.capsAgree (converges : Converges group s) : CapsAgree group s := by
  intro idle none m present c child unlocked
  rcases converges.reached m present c child unlocked with holds | pending
  · rw [holds, FleetRun.due, FleetRun.sitePercent, idle, Option.none_or]
  · rw [none] at pending
    simp at pending

/-- Where the shed and the commands come in turn, once everything in flight has landed every
unlocked child is at the smaller of the two percentages. -/
theorem fleet_caps_agree {group : ShedGroup} {requested : Requested} {locked : Finset String}
    {steps : List FleetStep}
    (inTurn : Along (FleetRun.step group) (InTurn group) (.start group requested locked) steps) :
    Along (FleetRun.step group) (fun s step => CapsAgree group (s.step group step))
      (.start group requested locked) steps := by
  refine Along.of_invariant (Converges group) (Converges.step group) ?_
    (Converges.start group requested locked) inTurn
  intro s step converges holds
  exact (Converges.step group s step converges holds).capsAgree

end Converging

/-! Over the import limit, the shed cuts the two GPUs to 90 percent. -/

def overImportTick : ShedTick :=
  { poiActivePower := 1000
    importLimit := 0
    exportLimit := 0
    requestedPercent := 100
    fleetMaxW := 2000
    fleetMinW := 400
    storageSpareW := 0
    dt := Duration.fromSecs 1 }

def shedThenCommand (percent : ℚ) : List FleetStep :=
  [.shedTick overImportTick, .landShed 1, .landShed 0, .confirm, .command computeModule percent,
    .landCommand 0, .landCommand 0]

theorem fleet_caps_agree_at_eighty :
    Along (FleetRun.step computeGroup) (fun s step => CapsAgree computeGroup (s.step computeGroup
      step)) (.start computeGroup (fun _ => none) ∅) (shedThenCommand 80) :=
  fleet_caps_agree (by decide +kernel)

/-- A command of 95 percent on the module puts its GPUs back to 950 W while the shed holds the
site at 90 percent. -/
theorem command_undoes_shed :
    ¬∀ (group : ShedGroup) (requested : Requested) (locked : Finset String)
      (steps : List FleetStep),
      Along (FleetRun.step group) (fun s step => CapsAgree group (s.step group step))
        (.start group requested locked) steps := by
  intro claimed
  have agree := (claimed computeGroup (fun _ => none) ∅ (shedThenCommand 95)).2.2.2.2.2.2.1
    (by decide +kernel) (by decide +kernel) computeModule (by decide) (gpu "g1") (by decide)
    (by decide +kernel)
  revert agree
  decide +kernel

end EmsGateway.Envelope
