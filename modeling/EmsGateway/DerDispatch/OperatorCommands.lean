import EmsGateway.DerDispatch.EventRelease

/-!
Whose setpoint a module has when a curtailment event is over, with operators commanding modules
at any moment of it and every command succeeding. A run keeps, beside the site, each module's
most recent operator command and whether it came after the event's snapshot.
-/

namespace EmsGateway.DerDispatch

open EmsGateway.Dispatch EmsGateway.Envelope EmsGateway.Library

structure OperatorRun where
  site : Site
  operator : String → Option ℚ
  commanded : String → Bool

def Site.isReleasing (site : Site) : Bool :=
  match site.phase with
  | .releasing _ _ => true
  | _ => false

namespace OperatorRun

def initial (requested : Requested) : OperatorRun :=
  ⟨.initial requested, operatorSetpoints requested, fun _ => false⟩

def current (r : OperatorRun) : String → Option ℚ := operatorSetpoints r.site.requested

def step (siteId : String) (r : OperatorRun) (step : SiteStep) : OperatorRun :=
  let site := r.site.step siteId step
  match step with
  | .operator _ moduleId value =>
      ⟨site, Function.update r.operator moduleId (some value),
        Function.update r.commanded moduleId true⟩
  | .tick _ =>
      let begins := r.site.memory.snapshot.isNone && site.memory.snapshot.isSome
      ⟨site, r.operator, if begins then fun _ => false else r.commanded⟩
  | _ => ⟨site, r.operator, r.commanded⟩

end OperatorRun

def Succeeds (siteId : String) (r : OperatorRun) (step : SiteStep) : Prop :=
  match step with
  | .tick _ => True
  | .finish => True
  | .operator call moduleId value =>
      IsSegment moduleId ∧ applies siteId call r.site.requested moduleId value = true ∧
        (dispatchOne siteId call r.site.requested moduleId value).2 = true
  | .send index call =>
      match r.site.queue[index]? with
      | none => True
      | some (moduleId, value) =>
          IsSegment moduleId ∧ applies siteId call r.site.requested moduleId value = true ∧
            (dispatchOne siteId call r.site.requested moduleId value).2 = true

/-- The event sends no share to a module an operator has commanded since the snapshot, a release
finds no such module within a rounding error of its last share, and no operator commands a
module whose restore is on its way. -/
def LeavesOperator (r : OperatorRun) (step : SiteStep) : Prop :=
  match step with
  | .finish => True
  | .send index _ =>
      r.site.isDispatching = true →
        match r.site.queue[index]? with
        | none => True
        | some sent => r.commanded sent.1 = false
  | .tick world =>
      r.site.phase = .idle → posture world.topics world.cache = .release →
        ∀ sent ∈ r.site.memory.dispatched, r.commanded sent.1 = true →
          EventMemory.stillSent r.current sent = false
  | .operator _ moduleId _ =>
      r.site.isReleasing = true → ∀ restore ∈ r.site.queue, restore.1 ≠ moduleId

structure OutsideEvent (r : OperatorRun) : Prop where
  dispatched : r.site.memory.dispatched = []
  queue : r.site.queue = []
  own : ∀ moduleId, AsBefore r.operator r.current moduleId

structure InEvent (r : OperatorRun) (snapshot : String → Option ℚ) : Prop where
  commanded : ∀ moduleId, r.commanded moduleId = true →
    ∃ value, r.operator moduleId = some value ∧ r.current moduleId = some value
  snapshotted : ∀ moduleId, r.commanded moduleId = false →
    AsBefore r.operator snapshot moduleId
  untouched : ∀ moduleId, r.commanded moduleId = false →
    (∀ share, (moduleId, share) ∉ r.site.memory.dispatched) →
    r.current moduleId = snapshot moduleId
  held : r.site.isReleasing = false → ∀ sent ∈ r.site.memory.dispatched,
    r.commanded sent.1 = false → r.current sent.1 = some sent.2
  published : r.site.isReleasing = true → r.site.phase = .releasing r.site.queue true
  restores : r.site.isReleasing = true → ∀ restore ∈ r.site.queue,
    restore.2 = (snapshot restore.1).getD 0 ∧ r.commanded restore.1 = false ∧
      ∃ share, (restore.1, share) ∈ r.site.memory.dispatched
  restored : r.site.isReleasing = true → ∀ sent ∈ r.site.memory.dispatched,
    r.commanded sent.1 = false → r.current sent.1 = some ((snapshot sent.1).getD 0) ∨
      ∃ restore ∈ r.site.queue, restore.1 = sent.1

def OperatorKept (r : OperatorRun) : Prop :=
  match r.site.memory.snapshot with
  | none => OutsideEvent r
  | some snapshot => InEvent r snapshot

theorem OperatorKept.outside {r : OperatorRun} (kept : OperatorKept r)
    (none : r.site.memory.snapshot = none) : OutsideEvent r := by
  unfold OperatorKept at kept
  rw [none] at kept
  exact kept

theorem OperatorKept.inside {r : OperatorRun} (kept : OperatorKept r)
    {snapshot : String → Option ℚ} (event : r.site.memory.snapshot = some snapshot) :
    InEvent r snapshot := by
  unfold OperatorKept at kept
  rw [event] at kept
  exact kept

theorem operatorKept_of_inside {r : OperatorRun} {snapshot : String → Option ℚ}
    (event : r.site.memory.snapshot = some snapshot) (inside : InEvent r snapshot) :
    OperatorKept r := by
  unfold OperatorKept
  rw [event]
  exact inside

theorem operatorKept_of_outside {r : OperatorRun} (none : r.site.memory.snapshot = none)
    (outside : OutsideEvent r) : OperatorKept r := by
  unfold OperatorKept
  rw [none]
  exact outside

section Steps

variable {siteId : String} {r : OperatorRun}

/-! An operator's command. -/

def OperatorRun.afterOperator (r : OperatorRun) (moduleId : String) (value : ℚ) : OperatorRun :=
  ⟨{ r.site with requested := setRequest r.site.requested moduleId value },
    Function.update r.operator moduleId (some value), Function.update r.commanded moduleId true⟩

theorem OperatorRun.step_operator (segmentSite : IsSegment siteId) {call : Call}
    {moduleId : String} {value : ℚ}
    (succeeds : Succeeds siteId r (.operator call moduleId value)) :
    r.step siteId (.operator call moduleId value) = r.afterOperator moduleId value := by
  obtain ⟨segment, applied, _⟩ := succeeds
  simp only [OperatorRun.step, Site.step]
  rw [dispatchOne_requested segmentSite segment, if_pos applied]
  rfl

@[simp] theorem OperatorRun.afterOperator_current (r : OperatorRun) (moduleId : String)
    (value : ℚ) : (r.afterOperator moduleId value).current moduleId = some value := by
  simp [afterOperator, current]

theorem OperatorRun.afterOperator_current_of_ne {moduleId other : String} (value : ℚ)
    (different : other ≠ moduleId) :
    (r.afterOperator moduleId value).current other = r.current other :=
  operatorSetpoints_setRequest_of_ne value different

theorem OperatorRun.afterOperator_uncommanded {moduleId other : String} {value : ℚ}
    (uncommanded : (r.afterOperator moduleId value).commanded other = false) :
    other ≠ moduleId ∧ r.commanded other = false := by
  by_cases same : other = moduleId
  · simp [afterOperator, same] at uncommanded
  · exact ⟨same, by simpa [afterOperator, same] using uncommanded⟩

theorem OutsideEvent.operator (outside : OutsideEvent r) (moduleId : String) (value : ℚ) :
    OutsideEvent (r.afterOperator moduleId value) := by
  refine ⟨outside.dispatched, outside.queue, ?_⟩
  intro other
  by_cases same : other = moduleId
  · subst same
    left
    rw [OperatorRun.afterOperator_current]
    simp [OperatorRun.afterOperator]
  · refine (outside.own other).congr ?_ (r.afterOperator_current_of_ne value same)
    simp [OperatorRun.afterOperator, same]

theorem InEvent.operator {snapshot : String → Option ℚ} (inside : InEvent r snapshot)
    {moduleId : String} (value : ℚ)
    (clear : r.site.isReleasing = true → ∀ restore ∈ r.site.queue, restore.1 ≠ moduleId) :
    InEvent (r.afterOperator moduleId value) snapshot := by
  refine ⟨?_, ?_, ?_, ?_, inside.published, ?_, ?_⟩
  · intro other commanded
    by_cases same : other = moduleId
    · subst same
      exact ⟨value, by simp [OperatorRun.afterOperator], r.afterOperator_current other value⟩
    · rw [r.afterOperator_current_of_ne value same]
      simp only [OperatorRun.afterOperator, Function.update_of_ne same] at commanded ⊢
      exact inside.commanded other commanded
  · intro other uncommanded
    obtain ⟨different, before⟩ := OperatorRun.afterOperator_uncommanded uncommanded
    refine (inside.snapshotted other before).congr ?_ rfl
    simp [OperatorRun.afterOperator, different]
  · intro other uncommanded undispatched
    obtain ⟨different, before⟩ := OperatorRun.afterOperator_uncommanded uncommanded
    rw [r.afterOperator_current_of_ne value different]
    exact inside.untouched other before undispatched
  · intro notReleasing sent recorded uncommanded
    obtain ⟨different, before⟩ := OperatorRun.afterOperator_uncommanded uncommanded
    rw [r.afterOperator_current_of_ne value different]
    exact inside.held notReleasing sent recorded before
  · intro releasing restore queued
    obtain ⟨amount, before, recorded⟩ := inside.restores releasing restore queued
    refine ⟨amount, ?_, recorded⟩
    simpa [OperatorRun.afterOperator, clear releasing restore queued] using before
  · intro releasing sent recorded uncommanded
    obtain ⟨different, before⟩ := OperatorRun.afterOperator_uncommanded uncommanded
    rw [r.afterOperator_current_of_ne value different]
    exact inside.restored releasing sent recorded before

theorem OperatorKept.operator (segmentSite : IsSegment siteId) (kept : OperatorKept r)
    {call : Call} {moduleId : String} {value : ℚ}
    (succeeds : Succeeds siteId r (.operator call moduleId value))
    (leaves : LeavesOperator r (.operator call moduleId value)) :
    OperatorKept (r.step siteId (.operator call moduleId value)) := by
  rw [OperatorRun.step_operator segmentSite succeeds]
  cases event : r.site.memory.snapshot with
  | none => exact operatorKept_of_outside event ((kept.outside event).operator moduleId value)
  | some snapshot =>
      exact operatorKept_of_inside event ((kept.inside event).operator value leaves)

/-! A command of the site task. -/

theorem InEvent.commanded_set {snapshot : String → Option ℚ} (inside : InEvent r snapshot)
    {moduleId : String} (uncommanded : r.commanded moduleId = false) (value : ℚ) {other : String}
    (commanded : r.commanded other = true) :
    ∃ own, r.operator other = some own ∧
      operatorSetpoints (setRequest r.site.requested moduleId value) other = some own := by
  have different : other ≠ moduleId := by
    rintro rfl
    rw [uncommanded] at commanded
    exact absurd commanded Bool.false_ne_true
  rw [operatorSetpoints_setRequest_of_ne value different]
  exact inside.commanded other commanded

theorem InEvent.sendShare (segmentSite : IsSegment siteId) {snapshot : String → Option ℚ}
    (inside : InEvent r snapshot) {index : ℕ} {call : Call} {queue : Shares}
    (phase : r.site.phase = .dispatching queue) {moduleId : String} {share : ℚ}
    (found : queue[index]? = some (moduleId, share))
    (succeeds : Succeeds siteId r (.send index call))
    (leaves : LeavesOperator r (.send index call)) :
    InEvent (r.step siteId (.send index call)) snapshot := by
  simp only [Succeeds, Site.queue, phase, found] at succeeds
  simp only [LeavesOperator, Site.isDispatching, Site.queue, phase, found, forall_const] at leaves
  obtain ⟨segment, applied, handled⟩ := succeeds
  have after : r.step siteId (.send index call) =
      ⟨⟨setRequest r.site.requested moduleId share, r.site.memory.record moduleId share,
        .dispatching (queue.eraseIdx index)⟩, r.operator, r.commanded⟩ := by
    simp only [OperatorRun.step, Site.step, Site.send, phase, found, handled, if_true]
    rw [dispatchOne_requested segmentSite segment, if_pos applied]
  have elsewhere : ∀ other, other ≠ moduleId →
      operatorSetpoints (setRequest r.site.requested moduleId share) other = r.current other :=
    fun other different => operatorSetpoints_setRequest_of_ne share different
  have idle : r.site.isReleasing = false := by simp [Site.isReleasing, phase]
  rw [after]
  refine ⟨?_, inside.snapshotted, ?_, ?_, ?_, ?_, ?_⟩
  · intro other commanded
    exact inside.commanded_set leaves share commanded
  · intro other uncommanded undispatched
    have different : other ≠ moduleId := by
      rintro rfl
      exact undispatched share (mem_record.mpr (.inr rfl))
    simp only [OperatorRun.current, elsewhere other different]
    refine inside.untouched other uncommanded ?_
    intro earlier recorded
    exact undispatched earlier (mem_record.mpr (.inl ⟨recorded, different⟩))
  · intro _ sent recorded uncommanded
    rcases mem_record.mp recorded with ⟨earlier, different⟩ | rfl
    · simp only [OperatorRun.current, elsewhere sent.1 different]
      exact inside.held idle sent earlier uncommanded
    · exact operatorSetpoints_setRequest _ _ _
  all_goals
    intro impossible
    exact absurd impossible Bool.false_ne_true

theorem InEvent.sendRestore (segmentSite : IsSegment siteId) {snapshot : String → Option ℚ}
    (inside : InEvent r snapshot) {index : ℕ} {call : Call} {queue : Shares} {published : Bool}
    (phase : r.site.phase = .releasing queue published) {moduleId : String} {setpoint : ℚ}
    (found : queue[index]? = some (moduleId, setpoint))
    (succeeds : Succeeds siteId r (.send index call)) :
    InEvent (r.step siteId (.send index call)) snapshot := by
  simp only [Succeeds, Site.queue, phase, found] at succeeds
  obtain ⟨segment, applied, handled⟩ := succeeds
  have releasing : r.site.isReleasing = true := by simp [Site.isReleasing, phase]
  have queueIs : r.site.queue = queue := by simp [Site.queue, phase]
  have publishedIs : published = true := by
    have known := inside.published releasing
    rw [phase, TaskPhase.releasing.injEq] at known
    exact known.2
  have after : r.step siteId (.send index call) =
      ⟨⟨setRequest r.site.requested moduleId setpoint, r.site.memory,
        .releasing (queue.eraseIdx index) true⟩, r.operator, r.commanded⟩ := by
    simp only [OperatorRun.step, Site.step, Site.send, phase, found, handled, publishedIs,
      Bool.and_true]
    rw [dispatchOne_requested segmentSite segment, if_pos applied]
  have elsewhere : ∀ other, other ≠ moduleId →
      operatorSetpoints (setRequest r.site.requested moduleId setpoint) other =
        r.current other :=
    fun other different => operatorSetpoints_setRequest_of_ne setpoint different
  have restores := inside.restores releasing
  rw [queueIs] at restores
  obtain ⟨amount, uncommandedModule, share, recordedModule⟩ :=
    restores _ (List.mem_of_getElem? found)
  dsimp only at amount
  rw [after]
  refine ⟨?_, inside.snapshotted, ?_, ?_, fun _ => rfl, ?_, ?_⟩
  · intro other commanded
    exact inside.commanded_set uncommandedModule setpoint commanded
  · intro other uncommanded undispatched
    have different : other ≠ moduleId := by
      rintro rfl
      exact undispatched share recordedModule
    simp only [OperatorRun.current, elsewhere other different]
    exact inside.untouched other uncommanded undispatched
  · intro impossible
    simp [Site.isReleasing] at impossible
  · intro _ restore queued
    exact restores restore (List.mem_of_mem_eraseIdx queued)
  · intro _ sent recorded uncommanded
    by_cases same : sent.1 = moduleId
    · left
      simp only [OperatorRun.current, same, operatorSetpoints_setRequest]
      rw [amount]
    · simp only [OperatorRun.current, elsewhere sent.1 same]
      rcases inside.restored releasing sent recorded uncommanded with
        back | ⟨restore, queued, named⟩
      · exact .inl back
      · rw [queueIs] at queued
        refine .inr ⟨restore, mem_eraseIdx_of_ne found queued ?_, named⟩
        rintro rfl
        exact same named.symm

theorem OperatorKept.send (segmentSite : IsSegment siteId) (kept : OperatorKept r) {index : ℕ}
    {call : Call} (succeeds : Succeeds siteId r (.send index call))
    (leaves : LeavesOperator r (.send index call)) :
    OperatorKept (r.step siteId (.send index call)) := by
  cases found : r.site.queue[index]? with
  | none =>
      have same : r.step siteId (.send index call) = r := by
        simp only [OperatorRun.step, Site.step, r.site.send_of_none siteId found call]
      rwa [same]
  | some sent =>
      obtain ⟨moduleId, value⟩ := sent
      cases event : r.site.memory.snapshot with
      | none =>
          rw [(kept.outside event).queue] at found
          simp at found
      | some snapshot =>
          have inside := kept.inside event
          cases phase : r.site.phase with
          | idle => simp [Site.queue, phase] at found
          | dispatching queue =>
              simp only [Site.queue, phase] at found
              refine operatorKept_of_inside ?_
                (inside.sendShare segmentSite phase found succeeds leaves)
              simp only [OperatorRun.step, Site.step, Site.send, phase, found]
              split <;> exact event
          | releasing queue published =>
              simp only [Site.queue, phase] at found
              refine operatorKept_of_inside ?_
                (inside.sendRestore segmentSite phase found succeeds)
              simp only [OperatorRun.step, Site.step, Site.send, phase, found]
              exact event

/-! The start of a tick. -/

theorem InEvent.release {snapshot : String → Option ℚ} (inside : InEvent r snapshot)
    (event : r.site.memory.snapshot = some snapshot) (phase : r.site.phase = .idle)
    (far : ∀ sent ∈ r.site.memory.dispatched, r.commanded sent.1 = true →
      EventMemory.stillSent r.current sent = false) :
    InEvent ⟨{ r.site with phase := .releasing (r.site.memory.restores r.current) true },
      r.operator, r.commanded⟩ snapshot := by
  have idle : r.site.isReleasing = false := by simp [Site.isReleasing, phase]
  refine ⟨inside.commanded, inside.snapshotted, inside.untouched, ?_, fun _ => rfl, ?_, ?_⟩
  · intro impossible
    simp [Site.isReleasing] at impossible
  · intro _ restore queued
    simp only [Site.queue, EventMemory.restores, event] at queued
    obtain ⟨sent, kept, rfl⟩ := List.mem_map.mp queued
    obtain ⟨recorded, still⟩ := List.mem_filter.mp kept
    refine ⟨rfl, ?_, sent.2, recorded⟩
    by_contra commanded
    rw [far sent recorded (by simpa using commanded)] at still
    exact Bool.false_ne_true still
  · intro _ sent recorded uncommanded
    right
    have current := inside.held idle sent recorded uncommanded
    refine ⟨(sent.1, (snapshot sent.1).getD 0), ?_, rfl⟩
    simp only [Site.queue, EventMemory.restores, event]
    refine List.mem_map.mpr ⟨sent, List.mem_filter.mpr ⟨recorded, ?_⟩, rfl⟩
    simp [EventMemory.stillSent, current, sameSetpointW]

theorem InEvent.dispatch {snapshot : String → Option ℚ} (inside : InEvent r snapshot)
    (phase : r.site.phase = .idle) (queue : Shares) :
    InEvent ⟨{ r.site with phase := .dispatching queue }, r.operator, r.commanded⟩ snapshot := by
  have idle : r.site.isReleasing = false := by simp [Site.isReleasing, phase]
  refine ⟨inside.commanded, inside.snapshotted, inside.untouched, fun _ => inside.held idle,
    ?_, ?_, ?_⟩
  all_goals
    intro impossible
    exact absurd impossible Bool.false_ne_true

theorem OutsideEvent.dispatch (outside : OutsideEvent r) (queue : Shares) :
    InEvent ⟨⟨r.site.requested, ⟨some r.current, r.site.memory.dispatched⟩, .dispatching queue⟩,
      r.operator, fun _ => false⟩ r.current := by
  refine ⟨?_, ?_, ?_, ?_, ?_, ?_, ?_⟩
  · intro other impossible
    exact absurd impossible Bool.false_ne_true
  · intro other _
    exact outside.own other
  · intro other _ _
    rfl
  · intro _ sent recorded
    simp [outside.dispatched] at recorded
  all_goals
    intro impossible
    exact absurd impossible Bool.false_ne_true

theorem OperatorRun.step_tick {world : TickWorld}
    (same : (r.site.tick siteId world).memory.snapshot = r.site.memory.snapshot) :
    r.step siteId (.tick world) = ⟨r.site.tick siteId world, r.operator, r.commanded⟩ := by
  have unbegun : (r.site.memory.snapshot.isNone && r.site.memory.snapshot.isSome) = false := by
    cases r.site.memory.snapshot <;> rfl
  simp only [OperatorRun.step, Site.step, same, unbegun, Bool.false_eq_true, if_false]

theorem OperatorKept.tick (kept : OperatorKept r) {world : TickWorld}
    (leaves : LeavesOperator r (.tick world)) :
    OperatorKept (r.step siteId (.tick world)) := by
  rcases r.site.tick_cases siteId world with ⟨phase, release, same⟩ | ⟨queue, phase, same⟩ | same
  · rw [OperatorRun.step_tick (by rw [same]), same]
    cases event : r.site.memory.snapshot with
    | none =>
        have outside := kept.outside event
        refine operatorKept_of_outside event ⟨outside.dispatched, ?_, outside.own⟩
        simp [Site.queue, EventMemory.restores, event]
    | some snapshot =>
        exact operatorKept_of_inside event
          ((kept.inside event).release event phase (leaves phase release))
  · cases event : r.site.memory.snapshot with
    | none =>
        have begun := EventMemory.begin_of_none event (operatorSetpoints r.site.requested)
        rw [begun] at same
        simp only [OperatorRun.step, Site.step, same, event, Option.isNone_none,
          Option.isSome_some, Bool.and_self, if_true]
        exact operatorKept_of_inside rfl ((kept.outside event).dispatch queue)
    | some snapshot =>
        have begun := EventMemory.begin_of_some event (operatorSetpoints r.site.requested)
        rw [begun] at same
        rw [OperatorRun.step_tick (by rw [same]), same]
        exact operatorKept_of_inside event ((kept.inside event).dispatch phase queue)
  · rw [OperatorRun.step_tick (by rw [same]), same]
    exact kept

/-! The end of a tick. -/

theorem InEvent.back {snapshot : String → Option ℚ} (inside : InEvent r snapshot)
    (released : Released r.site) {sent : String × ℚ}
    (recorded : sent ∈ r.site.memory.dispatched) :
    r.current sent.1 = some ((r.operator sent.1).getD 0) := by
  have phase : r.site.phase = .releasing [] true := released
  have releasing : r.site.isReleasing = true := by simp [Site.isReleasing, phase]
  cases commanded : r.commanded sent.1 with
  | true =>
      obtain ⟨value, operator, current⟩ := inside.commanded sent.1 commanded
      rw [current, operator, Option.getD_some]
  | false =>
      rcases inside.restored releasing sent recorded commanded with back | ⟨restore, queued, _⟩
      · rw [back]
        rcases inside.snapshotted sent.1 commanded with same | ⟨none, zero⟩
        · rw [same]
        · rw [none, zero, Option.getD_some, Option.getD_none]
      · simp [Site.queue, phase] at queued

theorem InEvent.own {snapshot : String → Option ℚ} (inside : InEvent r snapshot)
    (released : Released r.site) (moduleId : String) :
    AsBefore r.operator r.current moduleId := by
  by_cases recorded : ∃ share, (moduleId, share) ∈ r.site.memory.dispatched
  · obtain ⟨share, recorded⟩ := recorded
    exact asBefore_of_restored (inside.back released recorded)
  · cases commanded : r.commanded moduleId with
    | true =>
        obtain ⟨value, operator, current⟩ := inside.commanded moduleId commanded
        exact .inl (by rw [current, operator])
    | false =>
        have untouched := inside.untouched moduleId commanded fun share member =>
          recorded ⟨share, member⟩
        exact (inside.snapshotted moduleId commanded).congr rfl untouched

theorem OperatorKept.finish (kept : OperatorKept r) :
    OperatorKept (r.step siteId .finish) := by
  simp only [OperatorRun.step, Site.step, Site.finish]
  split
  · rename_i phase
    have idle : r.site.isReleasing = false := by simp [Site.isReleasing, phase]
    cases event : r.site.memory.snapshot with
    | none =>
        have outside := kept.outside event
        exact operatorKept_of_outside event ⟨outside.dispatched, rfl, outside.own⟩
    | some snapshot =>
        have inside := kept.inside event
        refine operatorKept_of_inside event ⟨inside.commanded, inside.snapshotted,
          inside.untouched, fun _ => inside.held idle, ?_, ?_, ?_⟩
        all_goals
          intro impossible
          exact absurd impossible Bool.false_ne_true
  · rename_i phase
    refine operatorKept_of_outside rfl ⟨rfl, rfl, ?_⟩
    cases event : r.site.memory.snapshot with
    | none => exact (kept.outside event).own
    | some snapshot => exact (kept.inside event).own phase
  · rename_i phase
    cases event : r.site.memory.snapshot with
    | none =>
        have outside := kept.outside event
        exact operatorKept_of_outside event ⟨outside.dispatched, rfl, outside.own⟩
    | some snapshot =>
        have releasing : r.site.isReleasing = true := by simp [Site.isReleasing, phase]
        have published := (kept.inside event).published releasing
        rw [phase] at published
        simp at published
  · exact kept

theorem OperatorKept.step (segmentSite : IsSegment siteId) (r : OperatorRun) (step : SiteStep)
    (kept : OperatorKept r)
    (allowed : Succeeds siteId r step ∧ LeavesOperator r step) :
    OperatorKept (r.step siteId step) := by
  cases step with
  | tick world => exact kept.tick allowed.2
  | send index call => exact kept.send segmentSite allowed.1 allowed.2
  | finish => exact kept.finish
  | operator call moduleId value => exact kept.operator segmentSite allowed.1 allowed.2

end Steps

theorem operatorKept_initial (requested : Requested) :
    OperatorKept (OperatorRun.initial requested) :=
  operatorKept_of_outside rfl ⟨rfl, rfl, fun _ => .inl rfl⟩

/-- After a release, each module the event dispatched is requested what its operator last
commanded, before or during the event, or 0. -/
theorem operator_command_stands {siteId : String} (segmentSite : IsSegment siteId)
    (requested : Requested) (steps : List SiteStep)
    (allowed : Along (OperatorRun.step siteId)
      (fun r step => Succeeds siteId r step ∧ LeavesOperator r step)
      (OperatorRun.initial requested) steps)
    (released : Released (run (OperatorRun.step siteId) (.initial requested) steps).site)
    (event : (run (OperatorRun.step siteId) (.initial requested) steps).site.memory.snapshot.isSome
      = true)
    {sent : String × ℚ}
    (dispatched : sent ∈
      (run (OperatorRun.step siteId) (.initial requested) steps).site.memory.dispatched) :
    (run (OperatorRun.step siteId) (.initial requested) (steps ++ [.finish])).current sent.1 =
      some (((run (OperatorRun.step siteId) (.initial requested)
        (steps ++ [.finish])).operator sent.1).getD 0) := by
  have kept : OperatorKept (run (OperatorRun.step siteId) (.initial requested) steps) :=
    run_invariant OperatorKept (OperatorKept.step segmentSite) (operatorKept_initial requested)
      allowed
  rw [run_append, run_cons, run_nil]
  generalize run (OperatorRun.step siteId) (.initial requested) steps = r at *
  obtain ⟨snapshot, event⟩ := Option.isSome_iff_exists.mp event
  have back := (kept.inside event).back released dispatched
  have phase : r.site.phase = .releasing [] true := released
  have same : (r.step siteId .finish).current = r.current := by
    simp [OperatorRun.current, OperatorRun.step, Site.step, Site.finish, phase]
  rw [same, back]
  rfl

/-! The module `m` again, commanded to 30 W by its operator while the event holds it at 60 W. -/

instance (siteId : String) (r : OperatorRun) (step : SiteStep) :
    Decidable (Succeeds siteId r step) :=
  match step with
  | .tick _ => .isTrue trivial
  | .finish => .isTrue trivial
  | .operator call moduleId value =>
      inferInstanceAs (Decidable (IsSegment moduleId ∧
        applies siteId call r.site.requested moduleId value = true ∧
        (dispatchOne siteId call r.site.requested moduleId value).2 = true))
  | .send index call =>
      match found : r.site.queue[index]? with
      | none => .isTrue (by simp [Succeeds, found])
      | some (moduleId, value) =>
          decidable_of_iff (IsSegment moduleId ∧
            applies siteId call r.site.requested moduleId value = true ∧
            (dispatchOne siteId call r.site.requested moduleId value).2 = true)
            (by simp [Succeeds, found])

instance (r : OperatorRun) (step : SiteStep) : Decidable (LeavesOperator r step) :=
  match step with
  | .finish => .isTrue trivial
  | .tick world =>
      inferInstanceAs (Decidable (r.site.phase = .idle →
        posture world.topics world.cache = .release →
        ∀ sent ∈ r.site.memory.dispatched, r.commanded sent.1 = true →
          EventMemory.stillSent r.current sent = false))
  | .operator _ moduleId _ =>
      inferInstanceAs (Decidable (r.site.isReleasing = true →
        ∀ restore ∈ r.site.queue, restore.1 ≠ moduleId))
  | .send index _ =>
      match found : r.site.queue[index]? with
      | none => .isTrue (by simp [LeavesOperator, found])
      | some sent =>
          decidable_of_iff (r.site.isDispatching = true → r.commanded sent.1 = false)
            (by simp [LeavesOperator, found])

def commandedMidEvent : List SiteStep :=
  [eventTick (some 60), .send 0 (callModule true), .finish, .operator (callModule true) "m" 30]

theorem operator_command_stands_at_m :
    (run (OperatorRun.step "s1") (.initial fun _ => some 7)
      ((commandedMidEvent ++ [eventTick none]) ++ [.finish])).current "m" = some 30 := by
  rw [operator_command_stands (by decide +kernel) (fun _ => some 7)
    (commandedMidEvent ++ [eventTick none]) (by decide +kernel) (by decide +kernel)
    (by decide +kernel) (show ("m", 60) ∈ _ by decide +kernel)]
  decide +kernel

/-- The event's target moves to 50 W after the operator's command: the new share replaces the
command, and the release puts back the 7 W from before the event. -/
theorem operator_command_lost_to_drift :
    ¬∀ (siteId : String) (requested : Requested) (steps : List SiteStep), IsSegment siteId →
      Along (OperatorRun.step siteId) (Succeeds siteId) (.initial requested) steps →
      Released (run (OperatorRun.step siteId) (.initial requested) steps).site →
      (run (OperatorRun.step siteId) (.initial requested) steps).site.memory.snapshot.isSome =
        true →
      ∀ sent ∈ (run (OperatorRun.step siteId) (.initial requested) steps).site.memory.dispatched,
        (run (OperatorRun.step siteId) (.initial requested) (steps ++ [.finish])).current sent.1 =
          some (((run (OperatorRun.step siteId) (.initial requested)
            (steps ++ [.finish])).operator sent.1).getD 0) := by
  intro claimed
  have stands := claimed "s1" (fun _ => some 7)
    (commandedMidEvent ++ [eventTick (some 50), .send 0 (callModule true), .finish,
      eventTick none, .send 0 (callModule true)])
    (by decide +kernel) (by decide +kernel) (by decide +kernel) (by decide +kernel) ("m", 50)
    (by decide +kernel)
  revert stands
  decide +kernel

end EmsGateway.DerDispatch
