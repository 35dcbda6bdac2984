import EmsGateway.Dispatch.Allocation

/-!
The loop computes a weighted max-min fair share. Its water level is demand over open weight;
closing children whose caps lie at or below the level never lowers it, so every child closed along
the way is also closed at the final level. Children of weight zero take part only once no open
child has a weight.
-/

namespace EmsGateway.Dispatch

namespace Filling

def openWeight (weight : ℕ → ℚ) (s : Filling) : ℚ := (s.opened.map weight).sum

/-- The shares up to now belong to one water level. An open child holds nothing yet, and the demand
still reaches the level; or the last round has given every open child its part of it. -/
structure Levelled (count : ℕ) (cap weight : ℕ → ℚ) (level : ℚ) (s : Filling) : Prop where
  level_nonneg : 0 ≤ level
  closed_below : ∀ i < count, i ∉ s.opened → 0 < weight i → cap i ≤ level * weight i
  open_share : (∀ i ∈ s.opened, s.shares i = 0) ∧ level * s.openWeight weight ≤ s.demand ∨
    s.demand = 0 ∧ ∀ i ∈ s.opened, 0 < weight i →
      s.shares i = level * weight i ∧ level * weight i ≤ cap i
  weightless : ∀ i < count, weight i = 0 → s.shares i ≠ 0 →
    ∀ j ∈ s.opened, ¬0 < weight j

section Round

variable {count : ℕ} {total level : ℚ} {cap weight : ℕ → ℚ} {s : Filling}

theorem weight_le_openWeight (weights : ∀ i, 0 ≤ weight i) {i : ℕ} (member : i ∈ s.opened) :
    weight i ≤ s.openWeight weight := by
  apply List.single_le_sum
  · intro value present
    obtain ⟨j, _, rfl⟩ := List.mem_map.mp present
    exact weights j
  · exact List.mem_map_of_mem member

theorem proposed_of_weighted (weighted : 0 < s.openWeight weight) (i : ℕ) :
    s.proposed weight i = s.demand / s.openWeight weight * weight i := by
  have positive : 0 < (s.opened.map weight).sum := weighted
  rw [proposed, if_pos positive, openWeight]
  ring

theorem weight_of_unweighted (weights : ∀ i, 0 ≤ weight i)
    (unweighted : ¬0 < s.openWeight weight) {i : ℕ} (member : i ∈ s.opened) : ¬0 < weight i :=
  fun positive => unweighted (positive.trans_le (weight_le_openWeight weights member))

theorem openWeight_split (keep : ℕ → Bool) :
    ((s.opened.filter keep).map weight).sum +
      ((s.opened.filter fun i => !keep i).map weight).sum = s.openWeight weight := by
  unfold openWeight
  induction s.opened with
  | nil => simp
  | cons i rest ih =>
      cases kept : keep i with
      | true => simp [kept, ← ih, add_assoc]
      | false => simp [kept, ← ih]; ring

/-- The children closed in a round take no more than their part of its level, so what is left still
reaches it. -/
theorem level_reached (weighted : 0 < s.openWeight weight) :
    s.demand / s.openWeight weight *
        ((s.opened.filter fun i => !s.isCapped cap weight i).map weight).sum ≤
      s.demand - ((s.opened.filter (s.isCapped cap weight)).map cap).sum := by
  have taken : ((s.opened.filter (s.isCapped cap weight)).map cap).sum ≤
      s.demand / s.openWeight weight *
        ((s.opened.filter (s.isCapped cap weight)).map weight).sum := by
    rw [← List.sum_map_mul_left]
    apply List.sum_le_sum
    intro i member
    rw [← proposed_of_weighted weighted]
    simpa [isCapped] using (List.mem_filter.mp member).2
  have whole : s.demand / s.openWeight weight * s.openWeight weight = s.demand :=
    div_mul_cancel₀ _ weighted.ne'
  have kept : ((s.opened.filter fun i => !s.isCapped cap weight i).map weight).sum =
      s.openWeight weight - ((s.opened.filter (s.isCapped cap weight)).map weight).sum :=
    eq_sub_of_add_eq' (openWeight_split _)
  rw [kept, mul_sub, whole]
  linarith

theorem Levelled.pending (levelled : Levelled count cap weight level s)
    (demand : 0 < s.demand) :
    (∀ i ∈ s.opened, s.shares i = 0) ∧ level * s.openWeight weight ≤ s.demand := by
  rcases levelled.open_share with pending | settled
  · exact pending
  · exact absurd settled.1 demand.ne'

/-- With a weight among the open children the level only rises. -/
theorem Levelled.le_rising (levelled : Levelled count cap weight level s) (demand : 0 < s.demand)
    (weighted : 0 < s.openWeight weight) : level ≤ s.demand / s.openWeight weight :=
  (le_div_iff₀ weighted).mpr (levelled.pending demand).2

theorem Levelled.closed_rising (levelled : Levelled count cap weight level s)
    (demand : 0 < s.demand) (weighted : 0 < s.openWeight weight) {i : ℕ} (bound : i < count)
    (closed : i ∉ s.opened) (positive : 0 < weight i) :
    cap i ≤ s.demand / s.openWeight weight * weight i := by
  have rises := levelled.le_rising demand weighted
  exact (levelled.closed_below i bound closed positive).trans (by gcongr)

theorem Levelled.uncapped (levelled : Levelled count cap weight level s)
    (weights : ∀ i, 0 ≤ weight i) (demand : 0 < s.demand)
    (none : s.opened.filter (s.isCapped cap weight) = []) :
    ∃ risen, Levelled count cap weight risen (s.fillRound cap weight) := by
  have uncapped : ∀ i ∈ s.opened, s.proposed weight i < cap i := by
    intro i member
    have kept := List.filter_eq_nil_iff.mp none i member
    simpa [isCapped] using kept
  simp only [fillRound, none, List.isEmpty_nil, if_true]
  by_cases weighted : 0 < s.openWeight weight
  · refine ⟨s.demand / s.openWeight weight, by positivity, ?_, .inr ⟨rfl, ?_⟩, ?_⟩
    · intro i bound closed positive
      exact levelled.closed_rising demand weighted bound closed positive
    · intro i member positive
      dsimp only
      rw [if_pos member, proposed_of_weighted weighted]
      refine ⟨rfl, ?_⟩
      rw [← proposed_of_weighted weighted]
      exact (uncapped i member).le
    · intro i bound zero moved
      dsimp only at moved
      by_cases member : i ∈ s.opened
      · rw [if_pos member, proposed_of_weighted weighted, zero, mul_zero] at moved
        exact absurd rfl moved
      · rw [if_neg member] at moved
        exact levelled.weightless i bound zero moved
  · refine ⟨level, levelled.level_nonneg, levelled.closed_below, .inr ⟨rfl, ?_⟩, ?_⟩
    · intro i member positive
      exact absurd positive (weight_of_unweighted weights weighted member)
    · intro i _ _ _ j member
      exact weight_of_unweighted weights weighted member

theorem Levelled.capped (levelled : Levelled count cap weight level s)
    (weights : ∀ i, 0 ≤ weight i) (caps : ∀ i, 0 ≤ cap i) (nonempty : s.opened ≠ [])
    (demand : 0 < s.demand) (some : s.opened.filter (s.isCapped cap weight) ≠ []) :
    ∃ risen, Levelled count cap weight risen (s.fillRound cap weight) := by
  obtain ⟨empty, reached⟩ := levelled.pending demand
  have notEmpty : (s.opened.filter (s.isCapped cap weight)).isEmpty = false := by
    simpa [List.isEmpty_iff] using some
  have openZero : ∀ i ∈ s.opened.filter (fun i => !s.isCapped cap weight i),
      (if i ∈ s.opened.filter (s.isCapped cap weight) then cap i else s.shares i) = 0 := by
    intro i member
    obtain ⟨opened, open'⟩ := List.mem_filter.mp member
    have notFull : s.isCapped cap weight i = false := by simpa using open'
    rw [if_neg (by simp [List.mem_filter, notFull]), empty i opened]
  simp only [fillRound, notEmpty, Bool.false_eq_true, if_false]
  by_cases weighted : 0 < s.openWeight weight
  · refine ⟨s.demand / s.openWeight weight, by positivity, ?_, .inl ⟨openZero, ?_⟩, ?_⟩
    · intro i bound closed positive
      by_cases opened : i ∈ s.opened
      · have full : s.isCapped cap weight i = true := by
          by_contra open'
          exact closed (List.mem_filter.mpr ⟨opened, by simpa using open'⟩)
        rw [← proposed_of_weighted weighted]
        exact of_decide_eq_true full
      · exact levelled.closed_rising demand weighted bound opened positive
    · exact level_reached weighted
    · intro i bound zero moved j member
      by_cases closed : i ∈ s.opened.filter (s.isCapped cap weight)
      · have below : cap i ≤ 0 := by
          have full := of_decide_eq_true (List.mem_filter.mp closed).2
          rwa [proposed_of_weighted weighted, zero, mul_zero] at full
        dsimp only at moved
        rw [if_pos closed] at moved
        exact absurd (le_antisymm below (caps i)) moved
      · dsimp only at moved
        rw [if_neg closed] at moved
        exact levelled.weightless i bound zero moved j (List.mem_filter.mp member).1
  · refine ⟨level, levelled.level_nonneg, ?_, .inl ⟨openZero, ?_⟩, ?_⟩
    · intro i bound closed positive
      refine levelled.closed_below i bound ?_ positive
      intro opened
      exact weight_of_unweighted weights weighted opened positive
    · have weightless : (List.map weight (s.opened.filter
          fun i => !s.isCapped cap weight i)).sum = 0 := by
        apply List.sum_eq_zero
        intro value present
        obtain ⟨i, member, rfl⟩ := List.mem_map.mp present
        have notPositive := weight_of_unweighted weights weighted (List.mem_filter.mp member).1
        exact le_antisymm (not_lt.mp notPositive) (weights i)
      have consumed := consumed_le cap demand.le weights nonempty
      rw [openWeight, weightless, mul_zero]
      exact sub_nonneg.mpr consumed
    · intro i _ _ _ j member
      exact weight_of_unweighted weights weighted (List.mem_filter.mp member).1

theorem Levelled.fill (weights : ∀ i, 0 ≤ weight i) (caps : ∀ i, 0 ≤ cap i) (fuel : ℕ)
    (levelled : Levelled count cap weight level s) :
    ∃ risen, Levelled count cap weight risen (fill cap weight fuel s) := by
  induction fuel generalizing s level with
  | zero => exact ⟨level, levelled⟩
  | succ fuel ih =>
      simp only [Filling.fill]
      split
      · rename_i running
        obtain ⟨unmet, nonempty⟩ := (running_iff s).mp running
        have demand : 0 < s.demand := epsilon_pos.trans unmet
        by_cases none : s.opened.filter (s.isCapped cap weight) = []
        · obtain ⟨risen, next⟩ := levelled.uncapped weights demand none
          exact ih next
        · obtain ⟨risen, next⟩ := levelled.capped weights caps nonempty demand none
          exact ih next
      · exact ⟨level, levelled⟩

theorem Levelled.share_of_stopped (levelled : Levelled count cap weight level s)
    (fills : Fills count total cap s) (weights : ∀ i, 0 ≤ weight i) (caps : ∀ i, 0 ≤ cap i)
    (stopped : s.running = false) {i : ℕ} (bound : i < count) (positive : 0 < weight i) :
    |s.shares i - min (cap i) (level * weight i)| ≤ epsilon := by
  by_cases opened : i ∈ s.opened
  · rcases levelled.open_share with ⟨empty, reached⟩ | ⟨_, settled⟩
    · have met : s.demand ≤ epsilon := by
        by_contra unmet
        have running := (running_iff s).mpr ⟨not_le.mp unmet, List.ne_nil_of_mem opened⟩
        exact absurd running (by simp [stopped])
      have small : level * weight i ≤ epsilon := by
        calc level * weight i ≤ level * s.openWeight weight :=
              mul_le_mul_of_nonneg_left (weight_le_openWeight weights opened)
                levelled.level_nonneg
          _ ≤ epsilon := reached.trans met
      have above : 0 ≤ min (cap i) (level * weight i) :=
        le_min (caps i) (mul_nonneg levelled.level_nonneg positive.le)
      rw [empty i opened, zero_sub, abs_neg, abs_of_nonneg above]
      exact (min_le_right _ _).trans small
    · obtain ⟨share, below⟩ := settled i opened positive
      rw [share, min_eq_right below, sub_self, abs_zero]
      exact epsilon_pos.le
  · rw [fills.closed_full i bound opened,
      min_eq_left (levelled.closed_below i bound opened positive), sub_self, abs_zero]
    exact epsilon_pos.le

theorem Levelled.full_of_weightless (levelled : Levelled count cap weight level s)
    (fills : Fills count total cap s) {i j : ℕ} (bound : i < count) (zero : weight i = 0)
    (moved : s.shares i ≠ 0) (other : j < count) (positive : 0 < weight j) :
    s.shares j = cap j := by
  apply fills.closed_full j other
  intro opened
  exact levelled.weightless i bound zero moved j opened positive

end Round

end Filling

open Filling

def eligibleChildren (children : List ChildCapacity) : List ChildCapacity :=
  children.filter fun c => c.operatingState.isEligible

def weightOf (total : ℚ) (policy : AllocationPolicy) (eligible : List ChildCapacity) (i : ℕ) : ℚ :=
  (policyWeights policy eligible (signOf total)).getD i 0

/-- The magnitude of the share in position `i`, which is that of the `i`-th eligible child. -/
def magnitudeAt (shares : List (String × ℚ)) (i : ℕ) : ℚ :=
  (shares.map fun share => |share.2|).getD i 0

section Spec

variable {total : ℚ} {policy : AllocationPolicy} {children : List ChildCapacity}

theorem eligible_charged
    (charged : ∀ c ∈ children, 0 ≤ c.stateOfCharge ∧ c.stateOfCharge ≤ 100) :
    ∀ c ∈ eligibleChildren children, 0 ≤ c.stateOfCharge ∧ c.stateOfCharge ≤ 100 := by
  intro c present
  exact charged c (List.mem_filter.mp present).1

theorem magnitudeAt_allocate
    (charged : ∀ c ∈ children, 0 ≤ c.stateOfCharge ∧ c.stateOfCharge ≤ 100) {i : ℕ}
    (bound : i < (eligibleChildren children).length) :
    magnitudeAt (allocate total children policy) i =
      (filled total (eligibleChildren children) policy).shares i := by
  have fills := filled_fills total policy (eligible_charged charged)
  have length : i < ((allocate total children policy).map fun share => |share.2|).length := by
    simpa [allocate, eligibleChildren] using bound
  rw [magnitudeAt, List.getD_eq_getElem _ _ length]
  simp only [allocate, List.getElem_map, List.getElem_mapIdx, abs_mul, abs_signOf, one_mul]
  exact abs_of_nonneg (fills.share_nonneg i)

theorem filled_levelled {eligible : List ChildCapacity}
    (charged : ∀ c ∈ eligible, 0 ≤ c.stateOfCharge ∧ c.stateOfCharge ≤ 100) :
    ∃ level, Levelled eligible.length (capOf eligible) (weightOf total policy eligible) level
      (filled total eligible policy) := by
  refine Levelled.fill ?_ (capOf_nonneg eligible) _ (?_ : Levelled _ _ _ 0 _)
  · intro i
    exact getD_nonneg (policyWeights_nonneg policy charged (signOf total)) i
  · refine ⟨le_rfl, ?_, .inl ⟨fun _ _ => rfl, ?_⟩, ?_⟩
    · intro i bound closed
      exact absurd (List.mem_range.mpr bound) closed
    · rw [zero_mul]
      exact abs_nonneg total
    · intro i _ _ moved
      exact absurd rfl moved

theorem allocate_maxMinFair (total : ℚ) (policy : AllocationPolicy)
    (charged : ∀ c ∈ children, 0 ≤ c.stateOfCharge ∧ c.stateOfCharge ≤ 100) :
    (filled total (eligibleChildren children) policy).running = false ∧
    |((allocate total children policy).map fun share => |share.2|).sum -
      min |total| ((eligibleChildren children).map fun c => max c.headroom 0).sum| ≤ epsilon ∧
    (allocate total children policy).map Prod.fst =
      (eligibleChildren children).map ChildCapacity.deviceId ∧
    ∃ level, 0 ≤ level ∧ ∀ i < (eligibleChildren children).length,
      (0 < weightOf total policy (eligibleChildren children) i →
        |magnitudeAt (allocate total children policy) i -
          min (capOf (eligibleChildren children) i)
            (level * weightOf total policy (eligibleChildren children) i)| ≤ epsilon) ∧
      (weightOf total policy (eligibleChildren children) i = 0 →
        magnitudeAt (allocate total children policy) i ≠ 0 →
          ∀ j < (eligibleChildren children).length,
            0 < weightOf total policy (eligibleChildren children) j →
              magnitudeAt (allocate total children policy) j =
                capOf (eligibleChildren children) j) := by
  have eligibleCharged := eligible_charged charged
  have fills := filled_fills total policy eligibleCharged
  have stopped := filled_stopped total policy (eligibleChildren children)
  obtain ⟨level, levelled⟩ : ∃ level, Levelled _ _ _ level
    (filled total (eligibleChildren children) policy) := filled_levelled eligibleCharged
  have weights : ∀ i, 0 ≤ weightOf total policy (eligibleChildren children) i := fun i =>
    getD_nonneg (policyWeights_nonneg policy eligibleCharged (signOf total)) i
  refine ⟨stopped, allocate_total charged, allocate_ids, level, levelled.level_nonneg, ?_⟩
  intro i bound
  rw [magnitudeAt_allocate charged bound]
  constructor
  · intro positive
    exact levelled.share_of_stopped fills weights (capOf_nonneg _) stopped bound positive
  · intro zero moved j other positive
    rw [magnitudeAt_allocate charged other]
    exact levelled.full_of_weightless fills bound zero moved other positive

end Spec

def threeRacks : List ChildCapacity := [
  ⟨"rack-1", .standby, 100, 60⟩,
  ⟨"rack-2", .discharging, 10, 30⟩,
  ⟨"rack-3", .fault, 100, 90⟩]

theorem allocate_maxMinFair_threeRacks :
    (∀ c ∈ threeRacks, 0 ≤ c.stateOfCharge ∧ c.stateOfCharge ≤ 100) ∧
      ∃ level, 0 ≤ level ∧
        |magnitudeAt (allocate 60 threeRacks .socWeighted) 0 - min 100 (level * 60)| ≤ epsilon ∧
        |magnitudeAt (allocate 60 threeRacks .socWeighted) 1 - min 10 (level * 30)| ≤ epsilon := by
  have charged : ∀ c ∈ threeRacks, 0 ≤ c.stateOfCharge ∧ c.stateOfCharge ≤ 100 := by
    decide +kernel
  have caps : capOf (eligibleChildren threeRacks) 0 = 100 ∧
      capOf (eligibleChildren threeRacks) 1 = 10 := by decide +kernel
  have weights : weightOf 60 .socWeighted (eligibleChildren threeRacks) 0 = 60 ∧
      weightOf 60 .socWeighted (eligibleChildren threeRacks) 1 = 30 := by decide +kernel
  obtain ⟨_, _, _, level, nonneg, fair⟩ := allocate_maxMinFair 60 .socWeighted charged
  have first := (fair 0 (by decide)).1 (by decide +kernel)
  have second := (fair 1 (by decide)).1 (by decide +kernel)
  rw [caps.1, weights.1] at first
  rw [caps.2, weights.2] at second
  exact ⟨charged, level, nonneg, first, second⟩

end EmsGateway.Dispatch
