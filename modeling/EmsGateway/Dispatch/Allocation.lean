import EmsGateway.Dispatch.AllocationCore

/-!
The clamp-and-redistribute loop. `Fills` is its invariant: no share is negative or above its
cap, a closed child sits at its cap, an open one holds nothing while there is demand left, and
shares and remaining demand always add up to the total. A round closes a child or ends the
demand, so the loop is over within as many rounds as there are children.
-/

namespace EmsGateway.Dispatch

namespace Filling

structure Fills (count : ℕ) (total : ℚ) (cap : ℕ → ℚ) (s : Filling) : Prop where
  demand_nonneg : 0 ≤ s.demand
  nodup : s.opened.Nodup
  below : ∀ i ∈ s.opened, i < count
  share_nonneg : ∀ i, 0 ≤ s.shares i
  share_le : ∀ i < count, s.shares i ≤ cap i
  closed_full : ∀ i < count, i ∉ s.opened → s.shares i = cap i
  open_zero : 0 < s.demand → ∀ i ∈ s.opened, s.shares i = 0
  balance : ∑ i ∈ Finset.range count, s.shares i + s.demand = total

theorem sum_range_of_mem {count : ℕ} {indices : List ℕ} (nodup : indices.Nodup)
    (below : ∀ i ∈ indices, i < count) (f : ℕ → ℚ) :
    ∑ i ∈ Finset.range count, (if i ∈ indices then f i else 0) = (indices.map f).sum := by
  have subset : indices.toFinset ⊆ Finset.range count := by
    intro i member
    exact Finset.mem_range.mpr (below i (List.mem_toFinset.mp member))
  calc ∑ i ∈ Finset.range count, (if i ∈ indices then f i else 0)
      = ∑ i ∈ Finset.range count, (if i ∈ indices.toFinset then f i else 0) := by simp
    _ = ∑ i ∈ indices.toFinset, f i := by
        rw [Finset.sum_ite_mem, Finset.inter_eq_right.mpr subset]
    _ = (indices.map f).sum := List.sum_toFinset f nodup

theorem running_iff (s : Filling) : s.running = true ↔ epsilon < s.demand ∧ s.opened ≠ [] := by
  simp [running]

theorem sum_proposed (weight : ℕ → ℚ) {s : Filling} (nonempty : s.opened ≠ []) :
    (s.opened.map (s.proposed weight)).sum = s.demand := by
  have length : (s.opened.length : ℚ) ≠ 0 := by
    simpa [List.length_eq_zero_iff] using nonempty
  by_cases positive : 0 < (s.opened.map weight).sum
  · have byWeight : s.proposed weight = fun i =>
        s.demand * (weight i * (s.opened.map weight).sum⁻¹) := by
      funext i
      simp [proposed, positive, div_eq_mul_inv]
    rw [byWeight, List.sum_map_mul_left, List.sum_map_mul_right, mul_inv_cancel₀ positive.ne',
      mul_one]
  · have evenly : s.proposed weight = fun _ => s.demand * (1 / s.opened.length) := by
      funext i
      simp [proposed, positive]
    rw [evenly, List.map_const', List.sum_replicate, nsmul_eq_mul]
    field_simp

theorem proposed_nonneg {weight : ℕ → ℚ} {s : Filling} (demand : 0 ≤ s.demand)
    (weights : ∀ i, 0 ≤ weight i) (i : ℕ) : 0 ≤ s.proposed weight i := by
  simp only [proposed]
  apply mul_nonneg demand
  split
  · rename_i positive
    exact div_nonneg (weights i) positive.le
  · positivity

theorem consumed_le (cap : ℕ → ℚ) {weight : ℕ → ℚ} {s : Filling} (demand : 0 ≤ s.demand)
    (weights : ∀ i, 0 ≤ weight i) (nonempty : s.opened ≠ []) :
    ((s.opened.filter (s.isCapped cap weight)).map cap).sum ≤ s.demand := by
  calc ((s.opened.filter (s.isCapped cap weight)).map cap).sum
      ≤ ((s.opened.filter (s.isCapped cap weight)).map (s.proposed weight)).sum := by
        apply List.sum_le_sum
        intro i member
        simpa [isCapped] using (List.mem_filter.mp member).2
    _ ≤ (s.opened.map (s.proposed weight)).sum := by
        apply List.Sublist.sum_le_sum (List.filter_sublist.map _)
        intro value member
        obtain ⟨i, _, rfl⟩ := List.mem_map.mp member
        exact proposed_nonneg demand weights i
    _ = s.demand := sum_proposed weight nonempty

section Round

variable {count : ℕ} {total : ℚ} {cap weight : ℕ → ℚ} {s : Filling}

theorem Fills.uncapped (fills : Fills count total cap s) (weights : ∀ i, 0 ≤ weight i)
    (running : s.running = true) (none : s.opened.filter (s.isCapped cap weight) = []) :
    Fills count total cap (s.fillRound cap weight) := by
  obtain ⟨demand, nonempty⟩ := (running_iff s).mp running
  have positive : 0 < s.demand := epsilon_pos.trans demand
  have uncapped : ∀ i ∈ s.opened, s.proposed weight i < cap i := by
    intro i member
    have kept := List.filter_eq_nil_iff.mp none i member
    simpa [isCapped] using kept
  simp only [fillRound, none, List.isEmpty_nil, if_true]
  refine ⟨le_rfl, fills.nodup, fills.below, ?_, ?_, ?_, ?_, ?_⟩
  · intro i
    dsimp only
    split
    · exact proposed_nonneg fills.demand_nonneg weights i
    · exact fills.share_nonneg i
  · intro i bound
    dsimp only
    split
    · rename_i member
      exact (uncapped i member).le
    · exact fills.share_le i bound
  · intro i bound closed
    simpa [closed] using fills.closed_full i bound closed
  · intro impossible
    exact absurd impossible (lt_irrefl 0)
  · have split : ∀ i ∈ Finset.range count,
        (if i ∈ s.opened then s.proposed weight i else s.shares i) =
          s.shares i + if i ∈ s.opened then s.proposed weight i else 0 := by
      intro i _
      by_cases member : i ∈ s.opened
      · simp [member, fills.open_zero positive i member]
      · simp [member]
    rw [Finset.sum_congr rfl split, Finset.sum_add_distrib,
      sum_range_of_mem fills.nodup fills.below, sum_proposed weight nonempty, add_zero]
    exact fills.balance

theorem Fills.capped (fills : Fills count total cap s) (weights : ∀ i, 0 ≤ weight i)
    (caps : ∀ i, 0 ≤ cap i) (running : s.running = true)
    (some : s.opened.filter (s.isCapped cap weight) ≠ []) :
    Fills count total cap (s.fillRound cap weight) := by
  obtain ⟨demand, nonempty⟩ := (running_iff s).mp running
  have positive : 0 < s.demand := epsilon_pos.trans demand
  have notEmpty : (s.opened.filter (s.isCapped cap weight)).isEmpty = false := by
    simpa [List.isEmpty_iff] using some
  have consumed := consumed_le cap fills.demand_nonneg weights nonempty
  simp only [fillRound, notEmpty, Bool.false_eq_true, if_false]
  refine ⟨by simpa using consumed, fills.nodup.filter _, ?_, ?_, ?_, ?_, ?_, ?_⟩
  · intro i member
    exact fills.below i (List.mem_filter.mp member).1
  · intro i
    dsimp only
    split
    · exact caps i
    · exact fills.share_nonneg i
  · intro i bound
    dsimp only
    split
    · exact le_rfl
    · exact fills.share_le i bound
  · intro i bound closed
    by_cases opened : i ∈ s.opened
    · have full : s.isCapped cap weight i = true := by
        by_contra open'
        exact closed (List.mem_filter.mpr ⟨opened, by simpa using open'⟩)
      simp [List.mem_filter, opened, full]
    · simpa [List.mem_filter, opened] using fills.closed_full i bound opened
  · intro _ i member
    obtain ⟨opened, open'⟩ := List.mem_filter.mp member
    have notFull : s.isCapped cap weight i = false := by simpa using open'
    simpa [List.mem_filter, notFull] using fills.open_zero positive i opened
  · have split : ∀ i ∈ Finset.range count,
        (if i ∈ s.opened.filter (s.isCapped cap weight) then cap i else s.shares i) =
          s.shares i + if i ∈ s.opened.filter (s.isCapped cap weight) then cap i else 0 := by
      intro i _
      by_cases member : i ∈ s.opened.filter (s.isCapped cap weight)
      · simp [member, fills.open_zero positive i (List.mem_filter.mp member).1]
      · simp [member]
    rw [Finset.sum_congr rfl split, Finset.sum_add_distrib, sum_range_of_mem (fills.nodup.filter _)
      (fun i member => fills.below i (List.mem_filter.mp member).1)]
    linarith [fills.balance]

theorem Fills.round (fills : Fills count total cap s) (weights : ∀ i, 0 ≤ weight i)
    (caps : ∀ i, 0 ≤ cap i) (running : s.running = true) :
    Fills count total cap (s.fillRound cap weight) := by
  by_cases none : s.opened.filter (s.isCapped cap weight) = []
  · exact fills.uncapped weights running none
  · exact fills.capped weights caps running none

theorem Fills.fill (weights : ∀ i, 0 ≤ weight i) (caps : ∀ i, 0 ≤ cap i) (fuel : ℕ)
    (fills : Fills count total cap s) : Fills count total cap (fill cap weight fuel s) := by
  induction fuel generalizing s with
  | zero => exact fills
  | succ fuel ih =>
      simp only [Filling.fill]
      split
      · rename_i running
        exact ih (fills.round weights caps running)
      · exact fills

end Round

theorem fill_of_not_running (cap weight : ℕ → ℚ) (fuel : ℕ) {s : Filling}
    (stopped : s.running = false) : fill cap weight fuel s = s := by
  cases fuel with
  | zero => rfl
  | succ fuel => simp [fill, stopped]

theorem fillRound_progress (cap weight : ℕ → ℚ) (s : Filling) :
    (s.fillRound cap weight).running = false ∨
      (s.fillRound cap weight).opened.length < s.opened.length := by
  by_cases none : s.opened.filter (s.isCapped cap weight) = []
  · left
    have notPositive : ¬epsilon < 0 := not_lt.mpr epsilon_pos.le
    simp [fillRound, none, running, notPositive]
  · right
    obtain ⟨i, member⟩ := List.exists_mem_of_ne_nil _ none
    obtain ⟨opened, full⟩ := List.mem_filter.mp member
    have notEmpty : (s.opened.filter (s.isCapped cap weight)).isEmpty = false := by
      simpa [List.isEmpty_iff] using none
    simp only [fillRound, notEmpty, Bool.false_eq_true, if_false]
    apply List.length_filter_lt_length_iff_exists.mpr
    exact ⟨i, opened, by simp [full]⟩

theorem fill_stops (cap weight : ℕ → ℚ) {fuel : ℕ} {s : Filling}
    (enough : s.opened.length ≤ fuel) : (fill cap weight fuel s).running = false := by
  induction fuel generalizing s with
  | zero =>
      have empty : s.opened = [] := List.length_eq_zero_iff.mp (by omega)
      simp [fill, running, empty]
  | succ fuel ih =>
      simp only [fill]
      split
      · rcases fillRound_progress cap weight s with stopped | fewer
        · rw [fill_of_not_running cap weight fuel stopped]
          exact stopped
        · exact ih (by omega)
      · rename_i stopped
        simpa using stopped

section Stopped

variable {count : ℕ} {total : ℚ} {cap : ℕ → ℚ} {s : Filling}

theorem Fills.sum_le_caps (fills : Fills count total cap s) :
    ∑ i ∈ Finset.range count, s.shares i ≤ ∑ i ∈ Finset.range count, cap i :=
  Finset.sum_le_sum fun i member => fills.share_le i (Finset.mem_range.mp member)

theorem Fills.full_of_unmet (fills : Fills count total cap s) (stopped : s.running = false)
    (unmet : epsilon < s.demand) {i : ℕ} (bound : i < count) : s.shares i = cap i := by
  have closed : s.opened = [] := by
    by_contra opened
    have running := (running_iff s).mpr ⟨unmet, opened⟩
    rw [stopped] at running
    exact Bool.false_ne_true running
  exact fills.closed_full i bound (by simp [closed])

theorem Fills.met_iff (fills : Fills count total cap s) (stopped : s.running = false) :
    s.demand ≤ epsilon ↔ total ≤ ∑ i ∈ Finset.range count, cap i + epsilon := by
  have balance := fills.balance
  constructor
  · intro met
    linarith [fills.sum_le_caps]
  · intro room
    by_contra unmet
    have full : ∑ i ∈ Finset.range count, s.shares i = ∑ i ∈ Finset.range count, cap i := by
      apply Finset.sum_congr rfl
      intro i member
      exact fills.full_of_unmet stopped (not_le.mp unmet) (Finset.mem_range.mp member)
    linarith [not_le.mp unmet]

theorem Fills.total_of_stopped (fills : Fills count total cap s) (stopped : s.running = false) :
    |∑ i ∈ Finset.range count, s.shares i -
      min total (∑ i ∈ Finset.range count, cap i)| ≤ epsilon := by
  have balance := fills.balance
  have demand := fills.demand_nonneg
  have belowMin : ∑ i ∈ Finset.range count, s.shares i ≤
      min total (∑ i ∈ Finset.range count, cap i) := le_min (by linarith) fills.sum_le_caps
  rw [abs_sub_comm, abs_of_nonneg (sub_nonneg.mpr belowMin)]
  by_cases met : s.demand ≤ epsilon
  · linarith [min_le_left total (∑ i ∈ Finset.range count, cap i)]
  · have full : ∑ i ∈ Finset.range count, s.shares i = ∑ i ∈ Finset.range count, cap i := by
      apply Finset.sum_congr rfl
      intro i member
      exact fills.full_of_unmet stopped (not_le.mp met) (Finset.mem_range.mp member)
    linarith [min_le_right total (∑ i ∈ Finset.range count, cap i), epsilon_pos]

end Stopped

end Filling

open Filling

theorem policyWeights_nonneg (policy : AllocationPolicy) {eligible : List ChildCapacity}
    (charged : ∀ c ∈ eligible, 0 ≤ c.stateOfCharge ∧ c.stateOfCharge ≤ 100) (sign : ℚ) :
    ∀ weight ∈ policyWeights policy eligible sign, 0 ≤ weight := by
  intro weight member
  cases policy with
  | equalSplit =>
      rw [List.eq_of_mem_replicate member]
      exact zero_le_one
  | socWeighted =>
      dsimp only [policyWeights] at member
      by_cases flat : (eligible.map fun c =>
          if 0 < sign then c.stateOfCharge else 100 - c.stateOfCharge).sum ≤ epsilon
      · rw [if_pos flat] at member
        rw [List.eq_of_mem_replicate member]
        exact zero_le_one
      · rw [if_neg flat] at member
        obtain ⟨c, present, rfl⟩ := List.mem_map.mp member
        obtain ⟨low, high⟩ := charged c present
        split
        · exact low
        · linarith

theorem getD_nonneg {values : List ℚ} (nonneg : ∀ value ∈ values, 0 ≤ value) (i : ℕ) :
    0 ≤ values.getD i 0 := by
  by_cases bound : i < values.length
  · rw [List.getD_eq_getElem _ _ bound]
    exact nonneg _ (List.getElem_mem bound)
  · rw [List.getD_eq_default _ _ (not_lt.mp bound)]

theorem capOf_nonneg (eligible : List ChildCapacity) (i : ℕ) : 0 ≤ capOf eligible i := by
  apply getD_nonneg
  intro value member
  obtain ⟨c, _, rfl⟩ := List.mem_map.mp member
  exact le_max_right _ _

theorem capOf_getElem (eligible : List ChildCapacity) {i : ℕ} (bound : i < eligible.length) :
    capOf eligible i = max eligible[i].headroom 0 := by
  rw [capOf, List.getD_eq_getElem _ _ (by simpa using bound), List.getElem_map]

theorem sum_range_eq_sum_map (count : ℕ) (f : ℕ → ℚ) :
    ∑ i ∈ Finset.range count, f i = ((List.range count).map f).sum := by
  rw [← sum_range_of_mem List.nodup_range (fun i member => List.mem_range.mp member)]
  apply Finset.sum_congr rfl
  intro i member
  rw [if_pos (List.mem_range.mpr (Finset.mem_range.mp member))]

section Allocate

variable (total : ℚ) (policy : AllocationPolicy) {eligible : List ChildCapacity}

theorem filled_fills_of_weights
    (weights : ∀ weight ∈ policyWeights policy eligible (signOf total), 0 ≤ weight) :
    Fills eligible.length |total| (capOf eligible) (filled total eligible policy) := by
  apply Fills.fill
  · exact getD_nonneg weights
  · exact capOf_nonneg eligible
  · refine ⟨abs_nonneg total, List.nodup_range, ?_, ?_, ?_, ?_, ?_, ?_⟩
    · intro i member
      exact List.mem_range.mp member
    · intro i
      exact le_rfl
    · intro i _
      exact capOf_nonneg eligible i
    · intro i bound closed
      exact absurd (List.mem_range.mpr bound) closed
    · intro _ i _
      rfl
    · simp

theorem filled_fills
    (charged : ∀ c ∈ eligible, 0 ≤ c.stateOfCharge ∧ c.stateOfCharge ≤ 100) :
    Fills eligible.length |total| (capOf eligible) (filled total eligible policy) :=
  filled_fills_of_weights total policy (policyWeights_nonneg policy charged (signOf total))

theorem filled_stopped (eligible : List ChildCapacity) :
    (filled total eligible policy).running = false := by
  apply fill_stops
  simp

theorem filled_shares_of_small {total : ℚ} {policy : AllocationPolicy}
    (eligible : List ChildCapacity) (small : |total| ≤ epsilon) (i : ℕ) :
    (filled total eligible policy).shares i = 0 := by
  unfold filled
  dsimp only
  rw [fill_of_not_running]
  simp [running, not_lt.mpr small]

theorem filled_share_le_total
    (charged : ∀ c ∈ eligible, 0 ≤ c.stateOfCharge ∧ c.stateOfCharge ≤ 100) {i : ℕ}
    (bound : i < eligible.length) : (filled total eligible policy).shares i ≤ |total| := by
  have fills := filled_fills total policy charged
  have single := Finset.single_le_sum (fun j _ => fills.share_nonneg j) (Finset.mem_range.mpr bound)
  linarith [fills.balance, fills.demand_nonneg]

end Allocate

theorem abs_signOf (total : ℚ) : |signOf total| = 1 := by
  unfold signOf
  split <;> simp

section Spec

variable {total : ℚ} {policy : AllocationPolicy} {children : List ChildCapacity}

theorem allocate_ids : (allocate total children policy).map Prod.fst =
    (children.filter fun c => c.operatingState.isEligible).map ChildCapacity.deviceId := by
  apply List.ext_getElem
  · simp [allocate]
  · intro i left right
    simp [allocate]

theorem allocate_of_small (small : |total| ≤ epsilon) {share : String × ℚ}
    (member : share ∈ allocate total children policy) : share.2 = 0 := by
  obtain ⟨i, bound, rfl⟩ := List.mem_iff_getElem.mp member
  simp [allocate, filled_shares_of_small _ small]

theorem allocate_share
    (charged : ∀ c ∈ children, 0 ≤ c.stateOfCharge ∧ c.stateOfCharge ≤ 100)
    {share : String × ℚ} (member : share ∈ allocate total children policy) :
    ∃ c ∈ children, c.operatingState.isEligible = true ∧ share.1 = c.deviceId ∧
      ∃ magnitude, share.2 = signOf total * magnitude ∧ 0 ≤ magnitude ∧
        magnitude ≤ max c.headroom 0 ∧ magnitude ≤ |total| := by
  obtain ⟨i, bound, rfl⟩ := List.mem_iff_getElem.mp member
  simp only [allocate, List.length_mapIdx] at bound
  have eligibleCharged : ∀ c ∈ children.filter fun c => c.operatingState.isEligible,
      0 ≤ c.stateOfCharge ∧ c.stateOfCharge ≤ 100 := by
    intro c present
    exact charged c (List.mem_filter.mp present).1
  have fills := filled_fills total policy eligibleCharged
  obtain ⟨present, eligible⟩ := List.mem_filter.mp (List.getElem_mem bound)
  refine ⟨_, present, eligible, by simp [allocate], _, by simp only [allocate, List.getElem_mapIdx],
    fills.share_nonneg i, ?_, filled_share_le_total total policy eligibleCharged bound⟩
  rw [← capOf_getElem _ bound]
  exact fills.share_le i bound

theorem sum_caps (eligible : List ChildCapacity) :
    (eligible.map fun c => max c.headroom 0).sum =
      ∑ i ∈ Finset.range eligible.length, capOf eligible i := by
  rw [sum_range_eq_sum_map]
  congr 1
  apply List.ext_getElem
  · simp
  · intro i left right
    simp only [List.length_map] at left
    simp [capOf_getElem eligible left]

theorem allocate_fills
    (charged : ∀ c ∈ children, 0 ≤ c.stateOfCharge ∧ c.stateOfCharge ≤ 100) :
    ∃ s, Fills (children.filter fun c => c.operatingState.isEligible).length |total|
        (capOf (children.filter fun c => c.operatingState.isEligible)) s ∧
      s.running = false ∧
      ((allocate total children policy).map fun share => |share.2|).sum =
        ∑ i ∈ Finset.range (children.filter fun c => c.operatingState.isEligible).length,
          s.shares i ∧
      ∀ (i : ℕ) (bound : i < (children.filter fun c => c.operatingState.isEligible).length),
        ((children.filter fun c => c.operatingState.isEligible)[i].deviceId,
          signOf total * s.shares i) ∈ allocate total children policy := by
  have eligibleCharged : ∀ c ∈ children.filter fun c => c.operatingState.isEligible,
      0 ≤ c.stateOfCharge ∧ c.stateOfCharge ≤ 100 := by
    intro c present
    exact charged c (List.mem_filter.mp present).1
  have fills := filled_fills total policy eligibleCharged
  refine ⟨_, fills, filled_stopped total policy _, ?_, ?_⟩
  · rw [sum_range_eq_sum_map]
    congr 1
    apply List.ext_getElem
    · simp [allocate]
    · intro i left right
      simp [allocate, abs_mul, abs_signOf, abs_of_nonneg (fills.share_nonneg i)]
  · intro i bound
    exact List.mem_mapIdx.mpr ⟨i, bound, rfl⟩

theorem allocate_total
    (charged : ∀ c ∈ children, 0 ≤ c.stateOfCharge ∧ c.stateOfCharge ≤ 100) :
    |((allocate total children policy).map fun share => |share.2|).sum -
      min |total| ((children.filter fun c => c.operatingState.isEligible).map
        fun c => max c.headroom 0).sum| ≤ epsilon := by
  obtain ⟨s, fills, stopped, magnitudes, _⟩ := allocate_fills charged
  rw [magnitudes, sum_caps]
  exact fills.total_of_stopped stopped

/-- The children are given all of the total exactly when their caps hold it. -/
theorem allocate_met_iff
    (charged : ∀ c ∈ children, 0 ≤ c.stateOfCharge ∧ c.stateOfCharge ≤ 100) :
    abs (((allocate total children policy).map fun share => |share.2|).sum - |total|) ≤ epsilon ↔
      |total| ≤ ((children.filter fun c => c.operatingState.isEligible).map
        fun c => max c.headroom 0).sum + epsilon := by
  obtain ⟨s, fills, stopped, magnitudes, _⟩ := allocate_fills charged
  have balance := fills.balance
  have demand := fills.demand_nonneg
  rw [magnitudes, sum_caps, ← fills.met_iff stopped, abs_sub_comm, abs_of_nonneg (by linarith),
    ← balance, add_sub_cancel_left]

theorem allocate_full
    (charged : ∀ c ∈ children, 0 ≤ c.stateOfCharge ∧ c.stateOfCharge ≤ 100)
    (large : ((children.filter fun c => c.operatingState.isEligible).map
      fun c => max c.headroom 0).sum + epsilon < |total|)
    {c : ChildCapacity} (present : c ∈ children) (eligible : c.operatingState.isEligible = true) :
    (c.deviceId, signOf total * max c.headroom 0) ∈ allocate total children policy := by
  obtain ⟨s, fills, stopped, _, shares⟩ := allocate_fills charged
  rw [sum_caps] at large
  have unmet : epsilon < s.demand := by
    by_contra met
    exact absurd ((fills.met_iff stopped).mp (not_lt.mp met)) (not_le.mpr large)
  have kept : c ∈ children.filter fun c => c.operatingState.isEligible :=
    List.mem_filter.mpr ⟨present, eligible⟩
  obtain ⟨i, bound, rfl⟩ := List.mem_iff_getElem.mp kept
  have share := shares i bound
  rwa [fills.full_of_unmet stopped unmet bound, capOf_getElem _ bound] at share

end Spec

end EmsGateway.Dispatch
