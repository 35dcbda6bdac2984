import EmsGateway.Envelope.Handoff
import EmsGateway.Library.KeyedWrites

/-!
What a plan does to the children as its writes land one by one. Along a plan the growth of the
writes goes from shrinking to growing, and the re-asserts at its end change nothing; so whichever
write is the last to land, the children together hold no more than before the plan or after all
of it.
-/

namespace EmsGateway.Envelope

open EmsGateway.Library

namespace WriteState

def plannedWrites (state : WriteState) (shares : Shares) : Shares :=
  match (state.plan shares).2 with
  | some plan => plan.writes
  | none => []

theorem plannedWrites_eq (state : WriteState) (shares : Shares) :
    state.plannedWrites shares = (state.ordered (state.changed shares)).2 ++
      state.reasserts (shares.map Prod.fst) (state.ordered (state.changed shares)).2 := by
  unfold plannedWrites
  cases planned : (state.plan shares).2 with
  | some plan => exact (plan_eq_some planned).1
  | none =>
      unfold plan at planned
      dsimp only at planned
      split at planned
      · rename_i empty
        exact (List.isEmpty_iff.mp empty).symm
      · exact absurd planned (by simp)

/-! Who is written -/

theorem nodup_changed {shares : Shares} (distinct : (shares.map Prod.fst).Nodup)
    (state : WriteState) : ((state.changed shares).map Prod.fst).Nodup :=
  distinct.sublist (List.filter_sublist.map _)

theorem nodup_ordered {changed : Shares} (distinct : (changed.map Prod.fst).Nodup)
    (state : WriteState) : ((state.ordered changed).2.map Prod.fst).Nodup := by
  have sorted : ((reductionsFirst changed state.lastWritten).map Prod.fst).Nodup :=
    ((List.perm_insertionSort _ changed).map Prod.fst).nodup_iff.mpr distinct
  unfold ordered
  split
  · simp
  · dsimp only [handoffBatch]
    split
    · exact sorted.sublist (List.filter_sublist.map _)
    · exact sorted

theorem map_fst_held_sublist (last : LastWritten) (ids : List String) :
    ((ids.filterMap fun id => (last id).map fun value => (id, value)).map Prod.fst).Sublist
      ids := by
  induction ids with
  | nil => simp
  | cons id rest ih =>
      cases held : last id with
      | none =>
          simp only [List.filterMap_cons, held, Option.map_none]
          exact ih.cons id
      | some value =>
          simp only [List.filterMap_cons, held, Option.map_some, List.map_cons]
          exact ih.cons_cons id

theorem map_fst_reasserts (state : WriteState) (ids : List String) (writes : Shares) :
    ((state.reasserts ids writes).map Prod.fst).Sublist ids :=
  (map_fst_held_sublist state.lastWritten _).trans List.filter_sublist

theorem nodup_plannedWrites {shares : Shares} (distinct : (shares.map Prod.fst).Nodup)
    (state : WriteState) : ((state.plannedWrites shares).map Prod.fst).Nodup := by
  rw [plannedWrites_eq, List.map_append, List.nodup_append]
  refine ⟨nodup_ordered (nodup_changed distinct state) state,
    distinct.sublist (map_fst_reasserts state _ _), ?_⟩
  intro id sent other reasserted same
  obtain ⟨share, member, rfl⟩ := List.mem_map.mp reasserted
  subst same
  exact (reasserts_held member).2 sent

theorem mem_ordered_of_not_holdsBack {state : WriteState} {shares : Shares}
    (released : state.holdsBack shares = false) {share : String × ℚ}
    (member : share ∈ state.changed shares) :
    share ∈ (state.ordered (state.changed shares)).2 := by
  have sorted : share ∈ reductionsFirst (state.changed shares) state.lastWritten :=
    (List.mem_insertionSort _).mpr member
  have filled : (state.changed shares).isEmpty = false := by
    simpa using List.ne_nil_of_mem member
  simp only [holdsBack, filled, Bool.not_false, Bool.true_and] at released
  simp only [ordered, filled, Bool.false_eq_true, if_false]
  unfold handoffBatch at released ⊢
  dsimp only at released ⊢
  split at released
  · exact absurd released (by simp)
  · rename_i keeps
    rw [if_neg keeps]
    exact sorted

theorem mem_reasserts_of_held {state : WriteState} {ids : List String} {writes : Shares}
    {id : String} {last : ℚ} (listed : id ∈ ids) (unsent : id ∉ writes.map Prod.fst)
    (held : state.lastWritten id = some last) : (id, last) ∈ state.reasserts ids writes := by
  refine List.mem_filterMap.mpr ⟨id, List.mem_filter.mpr ⟨listed, ?_⟩, by simp [held]⟩
  rw [List.all_eq_true]
  intro write sent
  refine decide_eq_true ?_
  rintro rfl
  exact unsent (List.mem_map_of_mem sent)

theorem plannedWrites_complete {state : WriteState} {shares : Shares} {share : String × ℚ}
    (member : share ∈ shares) :
    share.1 ∈ (state.plannedWrites shares).map Prod.fst ∨
      state.lastWritten share.1 = none ∧ state.holdsBack shares = true := by
  rw [plannedWrites_eq, List.map_append, List.mem_append]
  by_cases sent : share.1 ∈ (state.ordered (state.changed shares)).2.map Prod.fst
  · exact .inl (.inl sent)
  · cases held : state.lastWritten share.1 with
    | some last =>
        left
        right
        exact List.mem_map.mpr
          ⟨_, mem_reasserts_of_held (List.mem_map_of_mem member) sent held, rfl⟩
    | none =>
        right
        refine ⟨rfl, ?_⟩
        by_contra released
        have changes : share ∈ state.changed shares :=
          List.mem_filter.mpr ⟨member, by simp [held]⟩
        exact sent (List.mem_map_of_mem
          (mem_ordered_of_not_holdsBack (by simpa using released) changes))

theorem mem_plannedWrites {state : WriteState} {shares : Shares} {write : String × ℚ}
    (member : write ∈ state.plannedWrites shares) :
    write ∈ shares ∨ write.1 ∈ shares.map Prod.fst ∧
      state.lastWritten write.1 = some write.2 := by
  rw [plannedWrites_eq] at member
  rcases List.mem_append.mp member with sent | reasserted
  · exact .inl (List.mem_filter.mp (mem_ordered sent)).1
  · exact .inr ⟨mem_reasserts reasserted, (reasserts_held reasserted).1⟩

/-! What the children hold together -/

def heldBy (last : LastWritten) (id : String) : ℚ := (last id).getD 0

theorem abs_heldBy (last : LastWritten) (id : String) :
    |heldBy last id| = lastMagnitude last id := by
  unfold heldBy lastMagnitude
  cases last id with
  | none => simp
  | some value => simp

theorem pairwise_ordered (state : WriteState) (changed : Shares) :
    (state.ordered changed).2.Pairwise fun a b =>
      growth state.lastWritten a ≤ growth state.lastWritten b := by
  have sorted : (reductionsFirst changed state.lastWritten).Pairwise fun a b =>
      growth state.lastWritten a ≤ growth state.lastWritten b :=
    List.pairwise_insertionSort _ changed
  unfold ordered
  split
  · exact .nil
  · dsimp only [handoffBatch]
    split
    · exact sorted.filter _
    · exact sorted

/-- Wherever a plan is cut, either nothing before the cut grows or nothing after it shrinks. -/
theorem plannedWrites_turn {state : WriteState} {shares landed rest : Shares}
    (cut : landed ++ rest = state.plannedWrites shares) :
    (∀ write ∈ landed, growth state.lastWritten write ≤ 0) ∨
      ∀ write ∈ rest, 0 ≤ growth state.lastWritten write := by
  have sorted : (landed ++ rest).Pairwise fun a b =>
      growth state.lastWritten a ≤ growth state.lastWritten b ∨
        growth state.lastWritten b = 0 := by
    rw [cut, plannedWrites_eq, List.pairwise_append]
    refine ⟨?_, ?_, ?_⟩
    · exact (pairwise_ordered state _).imp .inl
    · apply List.pairwise_of_forall_mem_list
      intro _ _ write reasserted
      exact .inr (growth_reassert reasserted)
    · intro _ _ write reasserted
      exact .inr (growth_reassert reasserted)
  by_contra mixed
  push Not at mixed
  obtain ⟨⟨grown, before, grows⟩, shrunk, after, shrinks⟩ := mixed
  rcases (List.pairwise_append.mp sorted).2.2 grown before shrunk after with ordered | still
  · linarith
  · linarith

theorem sum_abs_heldBy (fleet : Finset String) {last : LastWritten} {writes : Shares}
    (distinct : (writes.map Prod.fst).Nodup) :
    ∑ id ∈ fleet, |heldBy (applyWrites last writes) id| =
      ∑ id ∈ fleet, |heldBy last id| +
        ((writes.filter fun write => write.1 ∈ fleet).map (growth last)).sum := by
  have gains : growth last = fun write => |(some write.2).getD 0| - |heldBy last write.1| := by
    funext write
    rw [abs_heldBy]
    rfl
  rw [gains]
  exact sum_applyWrites (fun value => |value.getD 0|) fleet distinct

/-- Writes that have landed, where either none of them grows or none of the others shrinks. -/
theorem sum_landed_le (fleet : Finset String) {last : LastWritten} {landed rest : Shares}
    (distinct : ((landed ++ rest).map Prod.fst).Nodup)
    (turn : (∀ write ∈ landed, growth last write ≤ 0) ∨ ∀ write ∈ rest, 0 ≤ growth last write) :
    ∑ id ∈ fleet, |heldBy (applyWrites last landed) id| ≤
      max (∑ id ∈ fleet, |heldBy last id|)
        (∑ id ∈ fleet, |heldBy (applyWrites last (landed ++ rest)) id|) := by
  have first : (landed.map Prod.fst).Nodup := by
    rw [List.map_append] at distinct
    exact (List.nodup_append.mp distinct).1
  rw [sum_abs_heldBy fleet distinct, sum_abs_heldBy fleet first, List.filter_append,
    List.map_append, List.sum_append]
  rcases turn with shrinking | growing
  · apply le_max_of_le_left
    have lost : ((landed.filter fun write => write.1 ∈ fleet).map (growth last)).sum ≤ 0 := by
      have bound := List.sum_le_card_nsmul
        ((landed.filter fun write => write.1 ∈ fleet).map (growth last)) 0 (by
          intro value present
          obtain ⟨write, member, rfl⟩ := List.mem_map.mp present
          exact shrinking write (List.mem_filter.mp member).1)
      rwa [smul_zero] at bound
    linarith
  · apply le_max_of_le_right
    have gained : 0 ≤ ((rest.filter fun write => write.1 ∈ fleet).map (growth last)).sum := by
      apply List.sum_nonneg
      intro value present
      obtain ⟨write, member, rfl⟩ := List.mem_map.mp present
      exact growing write (List.mem_filter.mp member).1
    linarith

end WriteState

open WriteState

theorem plan_adds_no_power (state : WriteState) {shares : Shares}
    (distinct : (shares.map Prod.fst).Nodup) :
    ((state.plannedWrites shares).map Prod.fst).Nodup ∧
    (∀ share ∈ shares, share.1 ∈ (state.plannedWrites shares).map Prod.fst ∨
      state.lastWritten share.1 = none ∧ state.holdsBack shares = true) ∧
    (∀ write ∈ state.plannedWrites shares, write ∈ shares ∨
      write.1 ∈ shares.map Prod.fst ∧ state.lastWritten write.1 = some write.2) ∧
    ∀ (fleet : Finset String) (landed rest : Shares),
      landed ++ rest = state.plannedWrites shares →
        ∑ id ∈ fleet, |heldBy (applyWrites state.lastWritten landed) id| ≤
          max (∑ id ∈ fleet, |heldBy state.lastWritten id|)
            (∑ id ∈ fleet, |heldBy (applyWrites state.lastWritten
              (state.plannedWrites shares)) id|) := by
  have keys := nodup_plannedWrites distinct state
  refine ⟨keys, fun _ => plannedWrites_complete, fun _ => mem_plannedWrites, ?_⟩
  intro fleet landed rest cut
  rw [← cut] at keys ⊢
  exact sum_landed_le fleet keys (plannedWrites_turn cut)

/-- Rack a hands 40 W to rack b while rack c has never been written. -/
def handoverState : WriteState where
  lastWritten := applyWrites (fun _ => none) [("a", 60), ("b", -20)]
  deferredGrowth := true
  gate := .new

def handoverShares : Shares := [("b", -60), ("a", 20), ("c", 0)]

theorem plan_adds_no_power_handover :
    handoverState.plannedWrites handoverShares = [("a", 20), ("c", 0), ("b", -60)] ∧
      ∑ id ∈ {"a", "b", "c"},
          |heldBy (applyWrites handoverState.lastWritten [("a", 20), ("c", 0)]) id| ≤
        max (∑ id ∈ {"a", "b", "c"}, |heldBy handoverState.lastWritten id|)
          (∑ id ∈ {"a", "b", "c"}, |heldBy (applyWrites handoverState.lastWritten
            (handoverState.plannedWrites handoverShares)) id|) := by
  have planned : handoverState.plannedWrites handoverShares =
      [("a", 20), ("c", 0), ("b", -60)] := by decide +kernel
  exact ⟨planned, (plan_adds_no_power handoverState (by decide)).2.2.2 {"a", "b", "c"} _
    [("b", -60)] planned.symm⟩

end EmsGateway.Envelope
