import EmsGateway.DerDispatch.ShareOrder

/-!
A process walks its queue in the order its maps gave it, so two processes send their commands in
different orders. What a command meets depends on the module it goes to, not on its turn, and a
whole round of commands then leaves both sites the same up to order again.
-/

namespace EmsGateway.DerDispatch

open EmsGateway.Asyncapi EmsGateway.Dispatch EmsGateway.Envelope EmsGateway.Library

def Site.serve (siteId : String) (calls : String → Call) (site : Site) : Site :=
  run (Site.step siteId) site (site.queue.map fun sent => .send 0 (calls sent.1))

section Serve

variable (siteId : String) (calls : String → Call)

def handles (sent : String × ℚ) : Bool :=
  (dispatchOne siteId (calls sent.1) (fun _ => none) sent.1 sent.2).2

def requestedAfter (requested : Requested) (queue : Shares) : Requested :=
  queue.foldl (fun requested sent =>
    (dispatchOne siteId (calls sent.1) requested sent.1 sent.2).1) requested

def memoryAfter (memory : EventMemory) (queue : Shares) : EventMemory :=
  queue.foldl (fun memory sent =>
    if handles siteId calls sent then memory.record sent.1 sent.2 else memory) memory

theorem dispatchOne_handles (requested : Requested) (sent : String × ℚ) :
    (dispatchOne siteId (calls sent.1) requested sent.1 sent.2).2 = handles siteId calls sent :=
  (command_independent siteId (calls sent.1) (fun _ => none) requested sent.1 sent.2).2

theorem dispatchOne_applies {siteId : String} (segmentSite : IsSegment siteId)
    {sent : String × ℚ} (segment : IsSegment sent.1) (requested : Requested) :
    (dispatchOne siteId (calls sent.1) requested sent.1 sent.2).1 =
      if applies siteId (calls sent.1) (fun _ => none) sent.1 sent.2 then
        setRequest requested sent.1 sent.2
      else requested := by
  rw [dispatchOne_requested segmentSite segment,
    (command_independent siteId (calls sent.1) requested (fun _ => none) sent.1 sent.2).1]

theorem dispatchOne_comm {siteId : String} (segmentSite : IsSegment siteId)
    {first second : String × ℚ} (firstSegment : IsSegment first.1)
    (secondSegment : IsSegment second.1) (different : first.1 ≠ second.1)
    (requested : Requested) :
    (dispatchOne siteId (calls second.1)
        (dispatchOne siteId (calls first.1) requested first.1 first.2).1 second.1 second.2).1 =
      (dispatchOne siteId (calls first.1)
        (dispatchOne siteId (calls second.1) requested second.1 second.2).1 first.1 first.2).1 := by
  have keys : (first.1, channelKey) ≠ (second.1, channelKey) :=
    fun same => different (Prod.mk.inj same).1
  simp only [dispatchOne_applies calls segmentSite firstSegment,
    dispatchOne_applies calls segmentSite secondSegment]
  split
  · split
    · exact Function.update_comm keys _ _ _
    · rfl
  · rfl

theorem requestedAfter_cons (requested : Requested) (sent : String × ℚ) (rest : Shares) :
    requestedAfter siteId calls requested (sent :: rest) = requestedAfter siteId calls
      (dispatchOne siteId (calls sent.1) requested sent.1 sent.2).1 rest := rfl

theorem memoryAfter_cons (memory : EventMemory) (sent : String × ℚ) (rest : Shares) :
    memoryAfter siteId calls memory (sent :: rest) = memoryAfter siteId calls
      (if handles siteId calls sent then memory.record sent.1 sent.2 else memory) rest := rfl

theorem step_first_dispatching (call : Call) (requested : Requested) (memory : EventMemory)
    (sent : String × ℚ) (rest : Shares) :
    Site.step siteId ⟨requested, memory, .dispatching (sent :: rest)⟩ (.send 0 call) =
      ⟨(dispatchOne siteId call requested sent.1 sent.2).1,
        if (dispatchOne siteId call requested sent.1 sent.2).2 then memory.record sent.1 sent.2
        else memory, .dispatching rest⟩ := by
  simp only [Site.step, Site.send, List.getElem?_cons_zero, List.eraseIdx_cons_zero]

theorem step_first_releasing (call : Call) (requested : Requested) (memory : EventMemory)
    (sent : String × ℚ) (rest : Shares) (allPublished : Bool) :
    Site.step siteId ⟨requested, memory, .releasing (sent :: rest) allPublished⟩ (.send 0 call) =
      ⟨(dispatchOne siteId call requested sent.1 sent.2).1, memory,
        .releasing rest
          (allPublished && (dispatchOne siteId call requested sent.1 sent.2).2)⟩ := by
  simp only [Site.step, Site.send, List.getElem?_cons_zero, List.eraseIdx_cons_zero]

theorem serve_dispatching (requested : Requested) (memory : EventMemory) (queue : Shares) :
    (⟨requested, memory, .dispatching queue⟩ : Site).serve siteId calls =
      ⟨requestedAfter siteId calls requested queue, memoryAfter siteId calls memory queue,
        .dispatching []⟩ := by
  induction queue generalizing requested memory with
  | nil => rfl
  | cons sent rest ih =>
      unfold Site.serve at ih ⊢
      dsimp only [Site.queue] at ih ⊢
      rw [List.map_cons, run_cons, step_first_dispatching, dispatchOne_handles, ih,
        requestedAfter_cons, memoryAfter_cons]

theorem serve_releasing (requested : Requested) (memory : EventMemory) (queue : Shares)
    (allPublished : Bool) :
    (⟨requested, memory, .releasing queue allPublished⟩ : Site).serve siteId calls =
      ⟨requestedAfter siteId calls requested queue, memory,
        .releasing [] (allPublished && queue.all (handles siteId calls))⟩ := by
  induction queue generalizing requested allPublished with
  | nil =>
      rw [List.all_nil, Bool.and_true]
      rfl
  | cons sent rest ih =>
      unfold Site.serve at ih ⊢
      dsimp only [Site.queue] at ih ⊢
      rw [List.map_cons, run_cons, step_first_releasing, dispatchOne_handles, ih,
        requestedAfter_cons, List.all_cons, Bool.and_assoc]

theorem requestedAfter_perm {siteId : String} (segmentSite : IsSegment siteId)
    (requested : Requested) {queue other : Shares} (order : other.Perm queue)
    (unique : (queue.map Prod.fst).Nodup) (segments : ∀ sent ∈ queue, IsSegment sent.1) :
    requestedAfter siteId calls requested other = requestedAfter siteId calls requested queue := by
  refine (order.symm.foldl_eq' ?_ requested).symm
  intro first firstQueued second secondQueued current
  by_cases same : first.1 = second.1
  · rw [List.inj_on_of_nodup_map unique firstQueued secondQueued same]
  · exact dispatchOne_comm calls segmentSite (segments first firstQueued)
      (segments second secondQueued) same current

theorem memoryAfter_snapshot (memory : EventMemory) (queue : Shares) :
    (memoryAfter siteId calls memory queue).snapshot = memory.snapshot := by
  induction queue generalizing memory with
  | nil => rfl
  | cons sent rest ih =>
      rw [memoryAfter_cons, ih]
      split <;> rfl

/-- The shares that were handled take the place of what was recorded for their modules. -/
theorem memoryAfter_dispatched (memory : EventMemory) {queue : Shares}
    (unique : (queue.map Prod.fst).Nodup) :
    (memoryAfter siteId calls memory queue).dispatched =
      memory.dispatched.filter (fun sent =>
        sent.1 ∉ (queue.filter (handles siteId calls)).map Prod.fst) ++
        queue.filter (handles siteId calls) := by
  induction queue generalizing memory with
  | nil => simp [memoryAfter]
  | cons sent rest ih =>
      obtain ⟨fresh, uniqueRest⟩ := List.nodup_cons.mp unique
      rw [memoryAfter_cons, ih _ uniqueRest]
      by_cases handled : handles siteId calls sent = true
      · rw [if_pos handled, List.filter_cons_of_pos handled]
        generalize later : rest.filter (handles siteId calls) = handledRest
        have apart : sent.1 ∉ handledRest.map Prod.fst := by
          rw [← later]
          exact fun queued => fresh ((List.filter_sublist.map Prod.fst).subset queued)
        have kept : [(sent.1, sent.2)].filter (fun sent => sent.1 ∉ handledRest.map Prod.fst) =
            [sent] := by
          simp [apart]
        unfold EventMemory.record
        rw [List.filter_append, kept, List.filter_filter, List.append_assoc]
        congr 2
        funext recorded
        rw [Bool.eq_iff_iff]
        simp [and_comm]
      · rw [if_neg handled, List.filter_cons_of_neg handled]

theorem memoryAfter_unique {memory : EventMemory}
    (unique : (memory.dispatched.map Prod.fst).Nodup) (queue : Shares) :
    ((memoryAfter siteId calls memory queue).dispatched.map Prod.fst).Nodup := by
  induction queue generalizing memory with
  | nil => exact unique
  | cons sent rest ih =>
      rw [memoryAfter_cons]
      apply ih
      split
      · exact record_unique unique sent.1 sent.2
      · exact unique

theorem mem_memoryAfter {memory : EventMemory} {queue : Shares} {sent : String × ℚ}
    (recorded : sent ∈ (memoryAfter siteId calls memory queue).dispatched) :
    sent ∈ memory.dispatched ∨ sent ∈ queue := by
  induction queue generalizing memory with
  | nil => exact .inl recorded
  | cons first rest ih =>
      rw [memoryAfter_cons] at recorded
      rcases ih recorded with earlier | queued
      · split at earlier
        · rcases mem_record.mp earlier with ⟨before, _⟩ | rfl
          · exact .inl before
          · exact .inr List.mem_cons_self
        · exact .inl earlier
      · exact .inr (List.mem_cons_of_mem _ queued)

theorem memoryAfter_perm {memory otherMemory : EventMemory}
    (recorded : otherMemory.dispatched.Perm memory.dispatched) {queue other : Shares}
    (order : other.Perm queue) (unique : (queue.map Prod.fst).Nodup) :
    (memoryAfter siteId calls otherMemory other).dispatched.Perm
      (memoryAfter siteId calls memory queue).dispatched := by
  have handled := order.filter (handles siteId calls)
  rw [memoryAfter_dispatched siteId calls memory unique, memoryAfter_dispatched siteId calls
    otherMemory ((order.map Prod.fst).nodup_iff.mpr unique)]
  simp only [(handled.map Prod.fst).mem_iff]
  exact (recorded.filter _).append handled

end Serve

theorem SameSite.serve {siteId : String} (segmentSite : IsSegment siteId) (calls : String → Call)
    {site other : Site} (same : SameSite site other)
    (segments : ∀ sent ∈ site.queue, IsSegment sent.1) :
    SameSite (site.serve siteId calls) (other.serve siteId calls) := by
  obtain ⟨requested, memory, phase⟩ := site
  obtain ⟨otherRequested, otherMemory, otherPhase⟩ := other
  have agreed : otherRequested = requested := same.requested
  have alike : SamePhase phase otherPhase := same.phase
  subst agreed
  cases alike with
  | idle => exact same
  | dispatching order unique =>
      rw [serve_dispatching, serve_dispatching]
      refine ⟨requestedAfter_perm calls segmentSite _ order unique segments, ?_,
        memoryAfter_perm siteId calls same.dispatched order unique,
        memoryAfter_unique siteId calls same.unique _, .dispatching (.refl _) (by simp)⟩
      rw [memoryAfter_snapshot, memoryAfter_snapshot]
      exact same.snapshot
  | releasing order unique allPublished =>
      rw [serve_releasing, serve_releasing, order.all_eq]
      exact ⟨requestedAfter_perm calls segmentSite _ order unique segments, same.snapshot,
        same.dispatched, same.unique, .releasing (.refl _) (by simp) _⟩

/-- Every module that has been sent a share, or is about to be, is named by one segment of a
topic. -/
structure Addressed (site : Site) : Prop where
  dispatched : ∀ sent ∈ site.memory.dispatched, IsSegment sent.1
  queue : ∀ sent ∈ site.queue, IsSegment sent.1

namespace Addressed

variable {siteId : String} {site : Site}

theorem dispatchQueue {world : TickWorld}
    (segments : ∀ deviceId ∈ world.deviceIds, IsSegment deviceId) (memory : EventMemory)
    (target : ℚ) : ∀ sent ∈ DerDispatch.dispatchQueue siteId memory world target,
      IsSegment sent.1 := by
  intro sent queued
  unfold DerDispatch.dispatchQueue at queued
  split at queued
  · exact absurd queued List.not_mem_nil
  · rename_i modules found
    have allocated := List.mem_map_of_mem (f := Prod.fst) (List.mem_of_mem_filter queued)
    rw [allocate_ids] at allocated
    have eligible := (List.filter_sublist.map ChildCapacity.deviceId).subset allocated
    rw [modulesWithBounds_ids _ _ _ _ _ _ found] at eligible
    exact segments _ (List.mem_of_mem_filter eligible)

theorem tick (addressed : Addressed site) {world : TickWorld}
    (segments : ∀ deviceId ∈ world.deviceIds, IsSegment deviceId) :
    Addressed (site.tick siteId world) := by
  unfold Site.tick
  dsimp only
  split
  · refine ⟨addressed.dispatched, ?_⟩
    intro restore queued
    simp only [Site.queue, EventMemory.restores] at queued
    split at queued
    · exact absurd queued List.not_mem_nil
    · obtain ⟨sent, kept, rfl⟩ := List.mem_map.mp queued
      exact addressed.dispatched sent (List.mem_of_mem_filter kept)
  · refine ⟨?_, dispatchQueue segments _ _⟩
    simp only [EventMemory.begin_dispatched]
    exact addressed.dispatched
  · exact addressed

theorem serve (calls : String → Call) (addressed : Addressed site) :
    Addressed (site.serve siteId calls) := by
  obtain ⟨requested, memory, phase⟩ := site
  cases phase with
  | idle => exact addressed
  | dispatching queue =>
      rw [serve_dispatching]
      refine ⟨?_, by simp [Site.queue]⟩
      intro sent recorded
      rcases mem_memoryAfter siteId calls recorded with earlier | queued
      · exact addressed.dispatched sent earlier
      · exact addressed.queue sent queued
  | releasing queue allPublished =>
      rw [serve_releasing]
      exact ⟨addressed.dispatched, by simp [Site.queue]⟩

theorem finish (addressed : Addressed site) : Addressed site.finish := by
  unfold Site.finish
  split
  · exact ⟨addressed.dispatched, by simp [Site.queue]⟩
  · exact ⟨by simp [EventMemory.empty], by simp [Site.queue]⟩
  · exact ⟨addressed.dispatched, by simp [Site.queue]⟩
  · exact addressed

end Addressed

/-- What the task does between two waits, or an operator's command in between. -/
inductive Turn where
  | round (world : TickWorld) (calls : String → Call)
  | operator (call : Call) (moduleId : String) (value : ℚ)

def Site.turn (siteId : String) (site : Site) (turn : Turn) : Site :=
  match turn with
  | .round world calls => ((site.tick siteId world).serve siteId calls).finish
  | .operator call moduleId value => site.step siteId (.operator call moduleId value)

inductive SameTurn : Turn → Turn → Prop
  | round (world : TickWorld) (calls : String → Call) {deviceIds : List String}
      (unique : world.deviceIds.Nodup)
      (segments : ∀ deviceId ∈ world.deviceIds, IsSegment deviceId)
      (order : deviceIds.Perm world.deviceIds) :
      SameTurn (.round world calls) (.round { world with deviceIds := deviceIds } calls)
  | operator (call : Call) (moduleId : String) (value : ℚ) :
      SameTurn (.operator call moduleId value) (.operator call moduleId value)

theorem same_turn {siteId : String} (segmentSite : IsSegment siteId) (site other : Site)
    (turn otherTurn : Turn) (together : SameSite site other ∧ Addressed site)
    (matched : SameTurn turn otherTurn) :
    SameSite (site.turn siteId turn) (other.turn siteId otherTurn) ∧
      Addressed (site.turn siteId turn) := by
  obtain ⟨same, addressed⟩ := together
  cases matched with
  | round world calls unique segments order =>
      have ticked : Addressed (site.tick siteId world) := addressed.tick segments
      have served := (same.tick world unique order).serve segmentSite calls ticked.queue
      exact ⟨served.finish, (ticked.serve calls).finish⟩
  | operator call moduleId value =>
      exact ⟨same.step _ _ _ _ (.operator call moduleId value), addressed.dispatched,
        addressed.queue⟩

/-- Neither the order of the children nor that of the hash maps decides a share. -/
theorem shares_independent_of_order :
    (∀ (total : ℚ) (policy : AllocationPolicy) (children others : List ChildCapacity),
      (children.map ChildCapacity.deviceId).Nodup → others.Perm children →
      ∀ deviceId, (allocate total others policy).lookup deviceId =
        (allocate total children policy).lookup deviceId) ∧
    (∀ (siteId : String) (requested : Requested) (steps others : List SiteStep),
      Lockstep (Site.step siteId) SameStep (Site.initial requested) (Site.initial requested)
        steps others →
      ∀ moduleId,
        (run (Site.step siteId) (Site.initial requested) others).queue.lookup moduleId =
          (run (Site.step siteId) (Site.initial requested) steps).queue.lookup moduleId) ∧
    ∀ (siteId : String), IsSegment siteId →
      ∀ (requested : Requested) (turns others : List Turn),
      Lockstep (Site.turn siteId) (fun _ _ => SameTurn) (Site.initial requested)
        (Site.initial requested) turns others →
      ∀ (world : TickWorld) (deviceIds : List String), world.deviceIds.Nodup →
      deviceIds.Perm world.deviceIds → ∀ moduleId,
        ((run (Site.turn siteId) (Site.initial requested) others).tick siteId
            { world with deviceIds := deviceIds }).queue.lookup moduleId =
          ((run (Site.turn siteId) (Site.initial requested) turns).tick siteId
            world).queue.lookup moduleId := by
  refine ⟨?_, ?_, ?_⟩
  · intro total policy children others unique same deviceId
    exact lookup_perm (allocate_perm total policy same) (allocate_ids_nodup total policy unique)
      deviceId
  · intro siteId requested steps others together moduleId
    have same := lockstep_invariant SameSite SameSite.step (SameSite.initial requested) together
    exact lookup_perm same.queue.1 same.queue.2 moduleId
  · intro siteId segmentSite requested turns others together world deviceIds unique order moduleId
    have start : Addressed (Site.initial requested) :=
      ⟨by simp [Site.initial, EventMemory.empty], by simp [Site.initial, Site.queue]⟩
    have same := (lockstep_invariant (fun site other => SameSite site other ∧ Addressed site)
      (same_turn segmentSite) ⟨SameSite.initial requested, start⟩ together).1
    have ticked := @SameSite.tick siteId _ _ same world _ unique order
    exact lookup_perm ticked.queue.1 ticked.queue.2 moduleId

/-! Two guarded modules, `m` at 75 % and `n` at 25 %, and an event that asks for 60 W. -/

def charged (deviceId : String) (stateOfCharge : ℚ) : ChildCapacity :=
  ⟨deviceId, .standby, 100, stateOfCharge⟩

def twoModules (deviceIds : List String) : TickWorld :=
  { topics := ⟨"event_active", "target_present", "target"⟩
    deviceIds := deviceIds
    channels := fun _ =>
      some fun key => if key = channelKey then some (.distribute curtailedModule) else none
    cache := fun topic =>
      if topic = "event_active" then some (.bool true, 0)
      else if topic = "target_present" then some (.bool true, 0)
      else if topic = "target" then some (.number 60, 0)
      else if topic = moduleSocTopic "s1" "m" then some (.number 75, 0)
      else if topic = moduleSocTopic "s1" "n" then some (.number 25, 0)
      else none
    now := 0
    locked := ∅ }

/-- Only the acks of `m` get through, so the share of `n` is due again in the next round. -/
def callOfTwo (moduleId : String) : Call :=
  { callModule true with
    channels := (twoModules []).channels
    accepts := fun _ => moduleId = "m" }

theorem shares_independent_of_order_two_modules :
    (allocate 60 [charged "n" 25, charged "m" 75] .socWeighted).lookup "m" =
      (allocate 60 [charged "m" 75, charged "n" 25] .socWeighted).lookup "m" ∧
    (allocate 60 [charged "m" 75, charged "n" 25] .socWeighted).lookup "m" = some 45 ∧
    (run (Site.step "s1") (Site.initial fun _ => none)
      [.tick (twoModules ["n", "m"]), .send 1 (callModule true)]).queue.lookup "n" =
        (run (Site.step "s1") (Site.initial fun _ => none)
          [.tick (twoModules ["m", "n"]), .send 0 (callModule true)]).queue.lookup "n" ∧
    (run (Site.step "s1") (Site.initial fun _ => none)
      [.tick (twoModules ["m", "n"]), .send 0 (callModule true)]).queue.lookup "n" = some 15 ∧
    ((run (Site.turn "s1") (Site.initial fun _ => none)
      [.round (twoModules ["n", "m"]) callOfTwo]).tick "s1"
        (twoModules ["n", "m"])).queue.lookup "n" =
      ((run (Site.turn "s1") (Site.initial fun _ => none)
        [.round (twoModules ["m", "n"]) callOfTwo]).tick "s1"
          (twoModules ["m", "n"])).queue.lookup "n" ∧
    ((run (Site.turn "s1") (Site.initial fun _ => none)
      [.round (twoModules ["m", "n"]) callOfTwo]).tick "s1"
        (twoModules ["m", "n"])).queue.lookup "n" = some 15 := by
  obtain ⟨byChildren, bySteps, byRounds⟩ := shares_independent_of_order
  refine ⟨byChildren 60 .socWeighted _ _ (by decide) (List.Perm.swap _ _ _) "m",
    by decide +kernel, bySteps "s1" (fun _ => none) _ _ ?_ "n", by decide +kernel,
    byRounds "s1" (by decide) (fun _ => none) _ _ ?_ (twoModules ["m", "n"]) ["n", "m"] (by decide)
      (List.Perm.swap _ _ _) "n", by decide +kernel⟩
  · exact ⟨.tick (twoModules ["m", "n"]) (by decide) (List.Perm.swap _ _ _),
      .send 0 1 (callModule true) (by decide +kernel), trivial⟩
  · exact ⟨.round (twoModules ["m", "n"]) _ (by decide) (by decide) (List.Perm.swap _ _ _), trivial⟩

end EmsGateway.DerDispatch
