import EmsGateway.DerDispatch.ModuleCommand
import EmsGateway.Library.Queues

/-!
Does the end of a curtailment event take back every setpoint the event gave? Each module is
accounted for: it is as the event found it, or it holds a share that the memory has on record
and a release will find. Only a command whose acks and effect disagree can break this.
-/

namespace EmsGateway.DerDispatch

open EmsGateway.Asyncapi EmsGateway.Dispatch EmsGateway.Envelope EmsGateway.Library

def AsBefore (snapshot current : String → Option ℚ) (moduleId : String) : Prop :=
  current moduleId = snapshot moduleId ∨ snapshot moduleId = none ∧ current moduleId = some 0

theorem AsBefore.congr {snapshot current otherSnapshot otherCurrent : String → Option ℚ}
    {moduleId : String} (before : AsBefore snapshot current moduleId)
    (sameSnapshot : otherSnapshot moduleId = snapshot moduleId)
    (sameCurrent : otherCurrent moduleId = current moduleId) :
    AsBefore otherSnapshot otherCurrent moduleId := by
  unfold AsBefore
  rw [sameSnapshot, sameCurrent]
  exact before

/-- A module put back to what the snapshot has for it, or to 0. -/
theorem asBefore_of_restored {snapshot current : String → Option ℚ} {moduleId : String}
    (restored : current moduleId = some ((snapshot moduleId).getD 0)) :
    AsBefore snapshot current moduleId := by
  cases own : snapshot moduleId with
  | none => exact .inr ⟨own, by rw [restored, own, Option.getD_none]⟩
  | some before => exact .inl (by rw [restored, own, Option.getD_some])

def HoldsShare (memory : EventMemory) (current : String → Option ℚ) (moduleId : String) : Prop :=
  ∃ share, (moduleId, share) ∈ memory.dispatched ∧ current moduleId = some share

def KeepsOwn (site : Site) (moduleId : String) : Prop :=
  match site.memory.snapshot with
  | some snapshot => AsBefore snapshot (operatorSetpoints site.requested) moduleId
  | none => True

theorem KeepsOwn.asBefore {site : Site} {moduleId : String} (kept : KeepsOwn site moduleId)
    {snapshot : String → Option ℚ} (event : site.memory.snapshot = some snapshot) :
    AsBefore snapshot (operatorSetpoints site.requested) moduleId := by
  unfold KeepsOwn at kept
  rw [event] at kept
  exact kept

def Site.queue (site : Site) : Shares :=
  match site.phase with
  | .idle => []
  | .dispatching queue => queue
  | .releasing queue _ => queue

def Site.isDispatching (site : Site) : Bool :=
  match site.phase with
  | .dispatching _ => true
  | _ => false

/-- No operator commands; a share that is applied has its acks published, and a command that is
acked without being applied goes to a module that is as it was before the event. -/
def AckedAsApplied (siteId : String) (site : Site) (step : SiteStep) : Prop :=
  match step with
  | .tick _ => True
  | .finish => True
  | .operator _ _ _ => False
  | .send index call =>
      match site.queue[index]? with
      | none => True
      | some (moduleId, value) =>
          let applied := applies siteId call site.requested moduleId value
          let handled := (dispatchOne siteId call site.requested moduleId value).2
          IsSegment moduleId ∧
            (site.isDispatching = true → applied = true → handled = true) ∧
            (handled = true → applied = false → KeepsOwn site moduleId)

def Accounted (site : Site) : Prop :=
  ∀ snapshot, site.memory.snapshot = some snapshot →
    match site.phase with
    | .releasing queue allPublished =>
        (∀ restore ∈ queue, restore.2 = (snapshot restore.1).getD 0) ∧
          ∀ moduleId, AsBefore snapshot (operatorSetpoints site.requested) moduleId ∨
            HoldsShare site.memory (operatorSetpoints site.requested) moduleId ∧
              ((∃ restore ∈ queue, restore.1 = moduleId) ∨ allPublished = false)
    | _ =>
        ∀ moduleId, AsBefore snapshot (operatorSetpoints site.requested) moduleId ∨
          HoldsShare site.memory (operatorSetpoints site.requested) moduleId

theorem mem_record {memory : EventMemory} {moduleId : String} {share : ℚ} {sent : String × ℚ} :
    sent ∈ (memory.record moduleId share).dispatched ↔
      sent ∈ memory.dispatched ∧ sent.1 ≠ moduleId ∨ sent = (moduleId, share) := by
  simp [EventMemory.record]

theorem Site.tick_cases (siteId : String) (site : Site) (world : TickWorld) :
    (site.phase = .idle ∧ posture world.topics world.cache = .release ∧
      site.tick siteId world = { site with
        phase := .releasing (site.memory.restores (operatorSetpoints site.requested)) true }) ∨
    (∃ queue, site.phase = .idle ∧ site.tick siteId world =
      ⟨site.requested, site.memory.begin (operatorSetpoints site.requested),
        .dispatching queue⟩) ∨
    site.tick siteId world = site := by
  unfold Site.tick
  dsimp only
  split
  · rename_i phase release
    exact .inl ⟨phase, release, rfl⟩
  · rename_i target phase dispatch
    exact .inr (.inl ⟨_, phase, rfl⟩)
  · exact .inr (.inr rfl)

theorem Site.send_of_none (siteId : String) (site : Site) {index : ℕ}
    (absent : site.queue[index]? = none) (call : Call) : site.send siteId index call = site := by
  cases phase : site.phase with
  | idle => simp [Site.send, phase]
  | dispatching queue =>
      simp only [Site.queue, phase] at absent
      simp [Site.send, phase, absent]
  | releasing queue published =>
      simp only [Site.queue, phase] at absent
      simp [Site.send, phase, absent]

theorem EventMemory.begin_of_none {memory : EventMemory} (none : memory.snapshot = none)
    (operator : String → Option ℚ) :
    memory.begin operator = ⟨some operator, memory.dispatched⟩ := by
  simp [EventMemory.begin, none]

theorem EventMemory.begin_of_some {memory : EventMemory} {snapshot : String → Option ℚ}
    (event : memory.snapshot = some snapshot) (operator : String → Option ℚ) :
    memory.begin operator = memory := by
  simp [EventMemory.begin, event]

section Steps

variable {siteId : String} {site : Site}

theorem Accounted.idle_or_dispatching (accounted : Accounted site)
    {snapshot : String → Option ℚ} (event : site.memory.snapshot = some snapshot)
    (moduleId : String) :
    AsBefore snapshot (operatorSetpoints site.requested) moduleId ∨
      HoldsShare site.memory (operatorSetpoints site.requested) moduleId := by
  have known := accounted snapshot event
  split at known
  · rcases known.2 moduleId with before | ⟨holds, _⟩
    · exact .inl before
    · exact .inr holds
  · exact known moduleId

theorem Accounted.tick (accounted : Accounted site) (world : TickWorld) :
    Accounted (site.tick siteId world) := by
  rcases site.tick_cases siteId world with ⟨_, _, same⟩ | ⟨queue, _, same⟩ | same
  · rw [same]
    intro snapshot event
    have event : site.memory.snapshot = some snapshot := event
    refine ⟨?_, ?_⟩
    · intro restore queued
      simp only [EventMemory.restores, event] at queued
      obtain ⟨sent, _, rfl⟩ := List.mem_map.mp queued
      rfl
    · intro moduleId
      rcases accounted.idle_or_dispatching event moduleId with before | holds
      · exact .inl before
      · refine .inr ⟨holds, .inl ⟨(moduleId, (snapshot moduleId).getD 0), ?_, rfl⟩⟩
        obtain ⟨share, recorded, current⟩ := holds
        simp only [EventMemory.restores, event]
        apply List.mem_map.mpr
        refine ⟨(moduleId, share), List.mem_filter.mpr ⟨recorded, ?_⟩, rfl⟩
        simp [EventMemory.stillSent, current, sameSetpointW]
  · rw [same]
    intro snapshot event moduleId
    cases before : site.memory.snapshot with
    | none =>
        rw [EventMemory.begin_of_none before, Option.some.injEq] at event
        exact .inl (.inl (by rw [← event]))
    | some old =>
        simp only [EventMemory.begin_of_some before] at event ⊢
        exact accounted.idle_or_dispatching event moduleId
  · rwa [same]

theorem Accounted.sendShare (accounted : Accounted site) (segmentSite : IsSegment siteId)
    {index : ℕ} {call : Call} {queue : Shares} (phase : site.phase = .dispatching queue)
    {moduleId : String} {share : ℚ} (found : queue[index]? = some (moduleId, share))
    (acked : AckedAsApplied siteId site (.send index call)) :
    Accounted (site.send siteId index call) := by
  simp only [AckedAsApplied, Site.queue, Site.isDispatching, phase, found, forall_const] at acked
  obtain ⟨segment, published, kept⟩ := acked
  simp only [Site.send, phase, found]
  rw [dispatchOne_requested segmentSite segment]
  intro snapshot eventAfter other
  have event : site.memory.snapshot = some snapshot := by
    dsimp only at eventAfter
    split at eventAfter <;> exact eventAfter
  dsimp only
  have known := accounted.idle_or_dispatching event other
  by_cases same : other = moduleId
  · subst same
    by_cases applied : applies siteId call site.requested other share = true
    · right
      rw [if_pos applied, if_pos (published applied)]
      exact ⟨share, mem_record.mpr (.inr rfl), operatorSetpoints_setRequest _ _ _⟩
    · rw [if_neg applied]
      by_cases handled : (dispatchOne siteId call site.requested other share).2 = true
      · exact .inl ((kept handled (by simpa using applied)).asBefore event)
      · rw [if_neg handled]
        exact known
  · -- any other module keeps its setpoint and its record
    have unchanged := operatorSetpoints_ite_of_ne site.requested
      (applies siteId call site.requested moduleId share) share same
    rcases known with before | ⟨held, recorded, current⟩
    · exact .inl (before.congr rfl unchanged)
    · right
      refine ⟨held, ?_, by rwa [unchanged]⟩
      split
      · exact mem_record.mpr (.inl ⟨recorded, same⟩)
      · exact recorded

theorem Accounted.sendRestore (accounted : Accounted site) (segmentSite : IsSegment siteId)
    {index : ℕ} {call : Call} {queue : Shares} {allPublished : Bool}
    (phase : site.phase = .releasing queue allPublished) {moduleId : String} {setpoint : ℚ}
    (found : queue[index]? = some (moduleId, setpoint))
    (acked : AckedAsApplied siteId site (.send index call)) :
    Accounted (site.send siteId index call) := by
  simp only [AckedAsApplied, Site.queue, phase, found] at acked
  obtain ⟨segment, _, kept⟩ := acked
  simp only [Site.send, phase, found]
  rw [dispatchOne_requested segmentSite segment]
  intro snapshot event
  have event : site.memory.snapshot = some snapshot := event
  have known := accounted snapshot event
  simp only [phase] at known
  refine ⟨fun restore queued => known.1 restore (List.mem_of_mem_eraseIdx queued), ?_⟩
  intro other
  dsimp only
  by_cases same : other = moduleId
  · subst same
    by_cases applied : applies siteId call site.requested other setpoint = true
    · left
      rw [if_pos applied]
      have value : setpoint = (snapshot other).getD 0 :=
        known.1 (other, setpoint) (List.mem_of_getElem? found)
      apply asBefore_of_restored
      rw [operatorSetpoints_setRequest, value]
    · rw [if_neg applied]
      by_cases handled : (dispatchOne siteId call site.requested other setpoint).2 = true
      · exact .inl ((kept handled (by simpa using applied)).asBefore event)
      · rcases known.2 other with before | ⟨holds, _⟩
        · exact .inl before
        · exact .inr ⟨holds, .inr (by simp [handled])⟩
  · have unchanged := operatorSetpoints_ite_of_ne site.requested
      (applies siteId call site.requested moduleId setpoint) setpoint same
    rcases known.2 other with before | ⟨⟨share, recorded, current⟩, waiting⟩
    · exact .inl (before.congr rfl unchanged)
    · refine .inr ⟨⟨share, recorded, by rwa [unchanged]⟩, ?_⟩
      rcases waiting with ⟨restore, queued, named⟩ | unpublished
      · refine .inl ⟨restore, mem_eraseIdx_of_ne found queued ?_, named⟩
        rintro rfl
        exact same named.symm
      · exact .inr (by simp [unpublished])

theorem Accounted.finish (accounted : Accounted site) : Accounted site.finish := by
  unfold Site.finish
  split
  · intro snapshot event
    exact accounted.idle_or_dispatching event
  · intro snapshot event
    simp [EventMemory.empty] at event
  · intro snapshot event
    exact accounted.idle_or_dispatching event
  · exact accounted

theorem Accounted.step (segmentSite : IsSegment siteId) (site : Site) (step : SiteStep)
    (accounted : Accounted site) (acked : AckedAsApplied siteId site step) :
    Accounted (site.step siteId step) := by
  cases step with
  | tick world => exact accounted.tick world
  | finish => exact accounted.finish
  | operator call moduleId value => exact acked.elim
  | send index call =>
      cases found : site.queue[index]? with
      | none => simpa only [Site.step, site.send_of_none siteId found call] using accounted
      | some sent =>
          cases phase : site.phase with
          | idle => simp [Site.queue, phase] at found
          | dispatching queue =>
              simp only [Site.queue, phase] at found
              exact accounted.sendShare segmentSite phase found acked
          | releasing queue allPublished =>
              simp only [Site.queue, phase] at found
              exact accounted.sendRestore segmentSite phase found acked

end Steps

/-- The task is about to forget the event: a release whose commands were all acked is over. -/
def Released (site : Site) : Prop := site.phase = .releasing [] true

instance (site : Site) : Decidable (Released site) :=
  inferInstanceAs (Decidable (site.phase = .releasing [] true))

/-- When the memory of an event is cleared, every module has its setpoint from before it. -/
theorem event_setpoints_taken_back {siteId : String} (segmentSite : IsSegment siteId)
    (requested : Requested) (steps : List SiteStep)
    (acked : Along (Site.step siteId) (AckedAsApplied siteId) (Site.initial requested) steps)
    (released : Released (run (Site.step siteId) (Site.initial requested) steps))
    {snapshot : String → Option ℚ}
    (event : (run (Site.step siteId) (Site.initial requested) steps).memory.snapshot =
      some snapshot) (moduleId : String) :
    AsBefore snapshot (operatorSetpoints
      (run (Site.step siteId) (Site.initial requested) (steps ++ [.finish])).requested)
      moduleId := by
  have accounted : Accounted (run (Site.step siteId) (Site.initial requested) steps) := by
    refine run_invariant Accounted (Accounted.step segmentSite) ?_ acked
    intro snapshot event
    simp [Site.initial, EventMemory.empty] at event
  rw [run_append, run_cons, run_nil]
  generalize run (Site.step siteId) (Site.initial requested) steps = site at *
  have phase : site.phase = .releasing [] true := released
  have same : (site.step siteId .finish).requested = site.requested := by
    simp [Site.step, Site.finish, phase]
  have known := accounted snapshot event
  simp only [phase] at known
  rw [same]
  rcases known.2 moduleId with before | ⟨_, queued | unpublished⟩
  · exact before
  · simp at queued
  · simp at unpublished

/-! One guarded module `m` and an event that asks the site for 60 W, then lets go. -/

def curtailedModule : DistributeBinding :=
  { allocationPolicy := "equal_split"
    children := []
    rampRatePerSec := some (1 / 10)
    hysteresisMargin := some (1 / 20)
    hysteresisDwellSecs := some 30
    powerMin := some (-100)
    powerMax := some 100
    importLimitTopic := some "import_limit"
    exportLimitTopic := some "export_limit"
    activePowerTopic := some "active_power" }

def curtailedChannels : DeviceChannels := fun deviceId =>
  if deviceId = "m" then
    some fun key => if key = channelKey then some (.distribute curtailedModule) else none
  else none

def eventTick (target : Option ℚ) : SiteStep :=
  .tick {
    topics := ⟨"event_active", "target_present", "target"⟩
    deviceIds := ["m"]
    channels := curtailedChannels
    cache := fun topic =>
      if topic = "event_active" then some (.bool target.isSome, 0)
      else if topic = "target_present" then some (.bool true, 0)
      else if topic = "target" then target.map fun watts => (.number watts, 0)
      else if topic = moduleSocTopic "s1" "m" then some (.number 50, 0)
      else none
    now := 0
    locked := ∅ }

def callModule (acks : Bool) : Call :=
  { channels := curtailedChannels
    locked := ∅
    accepts := fun event => acks || decide (event.phase ≠ .done)
    cache := fun _ => none
    now := 0
    south := fun _ => .ok ()
    commandId := "c" }

instance (id : String) : Decidable (IsSegment id) :=
  inferInstanceAs (Decidable (id ≠ "" ∧ '/' ∉ id.toList))

instance (snapshot current : String → Option ℚ) (moduleId : String) :
    Decidable (AsBefore snapshot current moduleId) :=
  inferInstanceAs (Decidable (current moduleId = snapshot moduleId ∨
    snapshot moduleId = none ∧ current moduleId = some 0))

instance (site : Site) (moduleId : String) : Decidable (KeepsOwn site moduleId) :=
  match event : site.memory.snapshot with
  | some snapshot =>
      decidable_of_iff (AsBefore snapshot (operatorSetpoints site.requested) moduleId)
        (by simp [KeepsOwn, event])
  | none => .isTrue (by simp [KeepsOwn, event])

instance (siteId : String) (site : Site) (step : SiteStep) :
    Decidable (AckedAsApplied siteId site step) :=
  match step with
  | .tick _ => .isTrue trivial
  | .finish => .isTrue trivial
  | .operator _ _ _ => .isFalse not_false
  | .send index call =>
      match found : site.queue[index]? with
      | none => .isTrue (by simp [AckedAsApplied, found])
      | some (moduleId, value) =>
          decidable_of_iff
            (IsSegment moduleId ∧
              (site.isDispatching = true → applies siteId call site.requested moduleId value =
                true → (dispatchOne siteId call site.requested moduleId value).2 = true) ∧
              ((dispatchOne siteId call site.requested moduleId value).2 = true →
                applies siteId call site.requested moduleId value = false →
                KeepsOwn site moduleId))
            (by simp [AckedAsApplied, found])

def curtailedOnce (acks : Bool) : List SiteStep :=
  [eventTick (some 60), .send 0 (callModule acks), .finish, eventTick none]

theorem event_setpoint_taken_back_from_m :
    operatorSetpoints (run (Site.step "s1") (Site.initial fun _ => some 7)
      ((curtailedOnce true ++ [.send 0 (callModule true)]) ++ [.finish])).requested "m" =
        some 7 := by
  have snapshotted : (run (Site.step "s1") (Site.initial fun _ => some 7)
      (curtailedOnce true ++ [.send 0 (callModule true)])).memory.snapshot.map
        (fun snapshot => snapshot "m") = some (some 7) := by decide +kernel
  obtain ⟨snapshot, event, own⟩ := Option.map_eq_some_iff.mp snapshotted
  have before := event_setpoints_taken_back (by decide +kernel) (fun _ => some 7)
    (curtailedOnce true ++ [.send 0 (callModule true)]) (by decide +kernel) (by decide +kernel)
    event "m"
  simpa [AsBefore, own] using before

def Site.setsForEvent (siteId : String) (site : Site) (step : SiteStep) : Option String :=
  match step with
  | .send index call =>
      if site.isDispatching then
        site.queue[index]?.bind fun sent =>
          if applies siteId call site.requested sent.1 sent.2 then some sent.1 else none
      else none
  | _ => none

def everSet (siteId : String) : Site → List SiteStep → List String
  | _, [] => []
  | site, step :: rest =>
      (site.setsForEvent siteId step).toList ++ everSet siteId (site.step siteId step) rest

def SiteStep.isOperator (step : SiteStep) : Bool :=
  match step with
  | .operator _ _ _ => true
  | _ => false

/-- The share is applied but its `done` ack is lost, so the memory never learns of it and the
release has nothing to take back. -/
theorem event_setpoint_left_after_lost_ack :
    ¬∀ (siteId : String) (requested : Requested) (steps : List SiteStep), IsSegment siteId →
      (∀ step ∈ steps, step.isOperator = false) →
      Released (run (Site.step siteId) (Site.initial requested) steps) →
      ∀ snapshot, (run (Site.step siteId) (Site.initial requested) steps).memory.snapshot =
        some snapshot →
      ∀ moduleId ∈ everSet siteId (Site.initial requested) steps,
        AsBefore snapshot (operatorSetpoints
          (run (Site.step siteId) (Site.initial requested) (steps ++ [.finish])).requested)
          moduleId := by
  intro claimed
  have snapshotted : (run (Site.step "s1") (Site.initial fun _ => none)
      (curtailedOnce false)).memory.snapshot.map (fun snapshot => snapshot "m") =
        some none := by decide +kernel
  obtain ⟨snapshot, event, own⟩ := Option.map_eq_some_iff.mp snapshotted
  have left := claimed "s1" (fun _ => none) (curtailedOnce false) (by decide +kernel)
    (by decide +kernel) (by decide +kernel) snapshot event "m" (by decide +kernel)
  have kept : operatorSetpoints (run (Site.step "s1") (Site.initial fun _ => none)
      (curtailedOnce false ++ [.finish])).requested "m" = some 60 := by decide +kernel
  rw [AsBefore, kept, own] at left
  simp at left

end EmsGateway.DerDispatch
