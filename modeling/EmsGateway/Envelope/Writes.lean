import EmsGateway.Envelope.WritesCore

/-!
What a plan contains. Its children are those of the shares it was made from: first a batch of
changed shares, then re-asserts of what a child already holds, for children outside the batch.
-/

namespace EmsGateway.Envelope

theorem mem_handoffBatch {changed : Shares} {last : LastWritten} {deferredLastTick : Bool}
    {share : String × ℚ} (member : share ∈ (handoffBatch changed last deferredLastTick).1) :
    share ∈ changed := by
  unfold handoffBatch at member
  dsimp only at member
  split at member
  · exact (List.mem_filter.mp member).1
  · exact member

theorem lastMagnitude_nonneg (last : LastWritten) (id : String) : 0 ≤ lastMagnitude last id := by
  unfold lastMagnitude
  split
  · exact abs_nonneg _
  · exact le_rfl

theorem growth_neg_of_materialShrink {last : LastWritten} {share : String × ℚ}
    (shrinks : materialShrink last share = true) : growth last share < 0 := by
  have magnitude := lastMagnitude_nonneg last share.1
  have enough := of_decide_eq_true shrinks
  unfold handoffMinFraction at enough
  linarith

theorem handoffBatch_eq_nil {changed : Shares} {last : LastWritten} {deferredLastTick : Bool} :
    (handoffBatch changed last deferredLastTick).1 = [] ↔ changed = [] := by
  constructor
  · intro empty
    unfold handoffBatch at empty
    dsimp only at empty
    split at empty
    · rename_i defers
      simp only [Bool.and_eq_true, List.any_eq_true] at defers
      obtain ⟨share, member, shrinks⟩ := defers.1.1
      have sent : share ∈ changed.filter fun c => decide (growth last c < 0) :=
        List.mem_filter.mpr ⟨member, decide_eq_true (growth_neg_of_materialShrink shrinks)⟩
      dsimp only at empty
      rw [empty] at sent
      exact absurd sent List.not_mem_nil
    · exact empty
  · rintro rfl
    rfl

namespace WriteState

theorem mem_changed {state : WriteState} {shares : Shares} {share : String × ℚ}
    (member : share ∈ state.changed shares) : state.lastWritten share.1 ≠ some share.2 := by
  intro same
  have moved := (List.mem_filter.mp member).2
  rw [same] at moved
  simp only [sub_self, abs_zero, decide_eq_true_eq] at moved
  exact absurd moved (not_le.mpr epsilon_pos)

theorem ordered_eq_nil {state : WriteState} {changed : Shares} :
    (state.ordered changed).2 = [] ↔ changed = [] := by
  unfold ordered
  split
  · rename_i empty
    simpa using empty
  · rw [handoffBatch_eq_nil, reductionsFirst]
    rw [← List.length_eq_zero_iff, (List.perm_insertionSort _ changed).length_eq,
      List.length_eq_zero_iff]

@[simp] theorem ordered_lastWritten (state : WriteState) (changed : Shares) :
    (state.ordered changed).1.lastWritten = state.lastWritten := by
  unfold ordered
  split
  · rfl
  · rfl

theorem mem_ordered {state : WriteState} {changed : Shares} {share : String × ℚ}
    (member : share ∈ (state.ordered changed).2) : share ∈ changed := by
  unfold ordered at member
  split at member
  · simp at member
  · exact (List.mem_insertionSort _).mp (mem_handoffBatch member)

theorem mem_reasserts {state : WriteState} {ids : List String} {writes : Shares}
    {share : String × ℚ} (member : share ∈ state.reasserts ids writes) : share.1 ∈ ids := by
  obtain ⟨id, kept, written⟩ := List.mem_filterMap.mp member
  obtain ⟨last, _, same⟩ := Option.map_eq_some_iff.mp written
  rw [← same]
  exact (List.mem_filter.mp kept).1

theorem reasserts_held {state : WriteState} {ids : List String} {writes : Shares}
    {share : String × ℚ} (member : share ∈ state.reasserts ids writes) :
    state.lastWritten share.1 = some share.2 ∧ share.1 ∉ writes.map Prod.fst := by
  obtain ⟨id, kept, written⟩ := List.mem_filterMap.mp member
  obtain ⟨last, found, rfl⟩ := Option.map_eq_some_iff.mp written
  refine ⟨found, ?_⟩
  intro named
  obtain ⟨write, sent, same⟩ := List.mem_map.mp named
  have apart := List.all_eq_true.mp (List.mem_filter.mp kept).2 write sent
  exact absurd same (of_decide_eq_true apart)

theorem plan_state (state : WriteState) (shares : Shares) :
    (state.plan shares).1 = (state.ordered (state.changed shares)).1 := by
  unfold plan
  dsimp only
  split
  · rfl
  · rfl

theorem plan_eq_some {state : WriteState} {shares : Shares} {plan : Plan}
    (planned : (state.plan shares).2 = some plan) :
    plan.writes = (state.ordered (state.changed shares)).2 ++
        state.reasserts (shares.map Prod.fst) (state.ordered (state.changed shares)).2 ∧
      plan.completesHandoff =
        (state.deferredGrowth && !(state.plan shares).1.deferredGrowth) := by
  rw [plan_state]
  unfold WriteState.plan at planned
  dsimp only at planned
  split at planned
  · exact absurd planned (by simp)
  · rw [Option.some.injEq] at planned
    rw [← planned]
    exact ⟨rfl, rfl⟩

theorem mem_plan {state : WriteState} {shares : Shares} {plan : Plan}
    (planned : (state.plan shares).2 = some plan) {share : String × ℚ}
    (member : share ∈ plan.writes) : share.1 ∈ shares.map Prod.fst := by
  rw [(plan_eq_some planned).1] at member
  rcases List.mem_append.mp member with changed | reasserted
  · exact List.mem_map_of_mem (List.mem_filter.mp (mem_ordered changed)).1
  · exact mem_reasserts reasserted

theorem mem_ordered_of_no_growth {state : WriteState} {changed : Shares} {share : String × ℚ}
    (noGrowth : ∀ other ∈ changed, growth state.lastWritten other ≤ 0) (member : share ∈ changed) :
    share ∈ (state.ordered changed).2 := by
  have sorted : share ∈ reductionsFirst changed state.lastWritten :=
    (List.mem_insertionSort _).mpr member
  unfold ordered
  rw [if_neg (by simpa using List.ne_nil_of_mem member)]
  dsimp only
  unfold handoffBatch
  dsimp only
  split
  · rename_i defers
    simp only [Bool.and_eq_true, List.any_eq_true] at defers
    obtain ⟨other, present, grows⟩ := defers.1.2
    have shrinks := noGrowth other ((List.mem_insertionSort _).mp present)
    exact absurd (of_decide_eq_true grows) (not_lt.mpr shrinks)
  · exact sorted

theorem plan_of_zero_shares {state : WriteState} {shares : Shares} {plan : Plan}
    (zero : ∀ share ∈ shares, share.2 = 0) (planned : (state.plan shares).2 = some plan)
    {write : String × ℚ} (member : write ∈ plan.writes) : |write.2| ≤ epsilon := by
  rw [(plan_eq_some planned).1] at member
  rcases List.mem_append.mp member with sent | reasserted
  · rw [zero write (List.mem_filter.mp (mem_ordered sent)).1, abs_zero]
    exact epsilon_pos.le
  · obtain ⟨held, unsent⟩ := reasserts_held reasserted
    obtain ⟨share, present, same⟩ := List.mem_map.mp (mem_reasserts reasserted)
    by_contra large
    refine unsent (List.mem_map.mpr ⟨share, mem_ordered_of_no_growth ?_ ?_, same⟩)
    · intro other changes
      rw [growth, zero other (List.mem_filter.mp changes).1, abs_zero, zero_sub, neg_nonpos]
      exact lastMagnitude_nonneg _ _
    · refine List.mem_filter.mpr ⟨present, ?_⟩
      rw [same, held, zero share present]
      simpa using (not_le.mp large).le

end WriteState

end EmsGateway.Envelope
