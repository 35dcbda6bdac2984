import EmsGateway.Dispatch.FairShare

/-!
What a state of charge outside 0 to 100 does to the split. Only the sum of the weights is checked,
so one negative weight among them is a share against the command, unless caps happen to end the
loop before it is given out.
-/

namespace EmsGateway.Dispatch

open Filling

/-- No child is driven against the command, or past its headroom. -/
def WithCommand (total : ℚ) (children : List ChildCapacity) (policy : AllocationPolicy) : Prop :=
  ∀ given ∈ (eligibleChildren children).zip (allocate total children policy),
    (given.2.2 = 0 ∨ 0 < given.2.2 * total) ∧ |given.2.2| ≤ max given.1.headroom 0

/-- What is read of each child, apart from its headroom. -/
def readings (children : List ChildCapacity) : List (OperatingState × ℚ) :=
  children.map fun c => (c.operatingState, c.stateOfCharge)

theorem map_stateOfCharge_eligible (children : List ChildCapacity) :
    (eligibleChildren children).map ChildCapacity.stateOfCharge =
      ((readings children).filter fun r => r.1.isEligible).map Prod.snd := by
  unfold eligibleChildren readings
  rw [List.filter_map, List.map_map]
  rfl

theorem policyWeights_eq (policy : AllocationPolicy) (eligible : List ChildCapacity) (sign : ℚ) :
    policyWeights policy eligible sign =
      match policy with
      | .equalSplit => List.replicate (eligible.map ChildCapacity.stateOfCharge).length 1
      | .socWeighted =>
          let raw := (eligible.map ChildCapacity.stateOfCharge).map fun soc =>
            if 0 < sign then soc else 100 - soc
          if raw.sum ≤ epsilon then
            List.replicate (eligible.map ChildCapacity.stateOfCharge).length 1
          else raw := by
  cases policy with
  | equalSplit => simp [policyWeights]
  | socWeighted => simp [policyWeights, Function.comp_def]

theorem policyWeights_of_readings {children others : List ChildCapacity}
    (same : readings others = readings children) (policy : AllocationPolicy) (sign : ℚ) :
    policyWeights policy (eligibleChildren others) sign =
      policyWeights policy (eligibleChildren children) sign := by
  rw [policyWeights_eq, policyWeights_eq, map_stateOfCharge_eligible, same,
    ← map_stateOfCharge_eligible]

theorem signOf_mul_self (total : ℚ) : signOf total * total = |total| := by
  unfold signOf
  split
  · rename_i negative
    rw [abs_of_neg negative, neg_one_mul]
  · rename_i nonneg
    rw [abs_of_nonneg (not_lt.mp nonneg), one_mul]

theorem withCommand_iff {total : ℚ} {children : List ChildCapacity} {policy : AllocationPolicy} :
    WithCommand total children policy ↔
      ∀ (i : ℕ) (bound : i < (eligibleChildren children).length),
        (signOf total * (filled total (eligibleChildren children) policy).shares i = 0 ∨
          0 < signOf total * (filled total (eligibleChildren children) policy).shares i * total) ∧
        |signOf total * (filled total (eligibleChildren children) policy).shares i| ≤
          max (eligibleChildren children)[i].headroom 0 := by
  have positions : ((eligibleChildren children).zip (allocate total children policy)).length =
      (eligibleChildren children).length := by simp [allocate, eligibleChildren]
  constructor
  · intro along i bound
    have here := along _ (List.getElem_mem (positions ▸ bound))
    simp only [List.getElem_zip, allocate, List.getElem_mapIdx] at here
    exact here
  · intro each given member
    obtain ⟨i, bound, rfl⟩ := List.mem_iff_getElem.mp member
    simp only [List.getElem_zip, allocate, List.getElem_mapIdx]
    exact each i (positions ▸ bound)

theorem withCommand_of_weights {total : ℚ} {children : List ChildCapacity}
    {policy : AllocationPolicy}
    (weights : ∀ weight ∈ policyWeights policy (eligibleChildren children) (signOf total),
      0 ≤ weight) : WithCommand total children policy := by
  have fills := filled_fills_of_weights total policy weights
  refine withCommand_iff.mpr ?_
  intro i bound
  have nonneg := fills.share_nonneg i
  have below := fills.share_le i bound
  rw [capOf_getElem _ bound] at below
  refine ⟨?_, ?_⟩
  · rcases nonneg.eq_or_lt with none | some
    · left
      rw [← none, mul_zero]
    · right
      have asked : 0 < |total| := by
        by_contra nothing
        have small : |total| ≤ epsilon := (not_lt.mp nothing).trans epsilon_pos.le
        exact some.ne' (filled_shares_of_small _ small i)
      rw [mul_right_comm, signOf_mul_self]
      exact mul_pos asked some
  · rw [abs_mul, abs_signOf, one_mul, abs_of_nonneg nonneg]
    exact below

/-! A negative weight is given out in the first round when every child has room. -/

def roomy (headroom : ℚ) (children : List ChildCapacity) : List ChildCapacity :=
  children.map fun c => { c with headroom := headroom }

theorem readings_roomy (headroom : ℚ) (children : List ChildCapacity) :
    readings (roomy headroom children) = readings children := by
  simp [readings, roomy, Function.comp_def]

theorem length_policyWeights (policy : AllocationPolicy) (eligible : List ChildCapacity)
    (sign : ℚ) : (policyWeights policy eligible sign).length = eligible.length := by
  cases policy with
  | equalSplit => simp [policyWeights]
  | socWeighted =>
      simp only [policyWeights, apply_ite List.length]
      simp

theorem sum_range_getD (values : List ℚ) :
    ((List.range values.length).map fun i => values.getD i 0).sum = values.sum := by
  congr 1
  apply List.ext_getElem
  · simp
  · intro i left right
    rw [List.getElem_map, List.getElem_range, List.getD_eq_getElem _ _ right]

/-- A round in which no child reaches its cap is the last. -/
theorem fill_of_uncapped {cap weight : ℕ → ℚ} {s : Filling} {fuel : ℕ} (enough : 0 < fuel)
    (running : s.running = true) (none : s.opened.filter (s.isCapped cap weight) = []) :
    fill cap weight fuel s = s.fillRound cap weight := by
  obtain ⟨rounds, rfl⟩ : ∃ rounds, fuel = rounds + 1 := ⟨fuel - 1, by omega⟩
  have stopped : (s.fillRound cap weight).running = false := by
    have notPositive : ¬epsilon < 0 := not_lt.mpr epsilon_pos.le
    simp [fillRound, none, Filling.running, notPositive]
  rw [fill, if_pos running, fill_of_not_running _ _ _ stopped]

theorem filled_shares_of_uncapped {total : ℚ} {policy : AllocationPolicy}
    {eligible : List ChildCapacity} {weights : List ℚ}
    (weightsAre : policyWeights policy eligible (signOf total) = weights)
    (asked : epsilon < |total|) (weighted : 0 < weights.sum)
    (room : ∀ i < eligible.length, |total| * (weights.getD i 0 / weights.sum) < capOf eligible i)
    {i : ℕ} (bound : i < eligible.length) :
    (filled total eligible policy).shares i = |total| * (weights.getD i 0 / weights.sum) := by
  have length : eligible.length = weights.length := by
    rw [← weightsAre, length_policyWeights]
  let start : Filling := ⟨|total|, List.range eligible.length, fun _ => 0⟩
  have proposed : ∀ j, start.proposed (fun i => weights.getD i 0) j =
      |total| * (weights.getD j 0 / weights.sum) := by
    intro j
    simp only [Filling.proposed, start, length, sum_range_getD, if_pos weighted]
  have running : start.running = true := by
    refine (running_iff start).mpr ⟨asked, ?_⟩
    simp only [start, ne_eq, List.range_eq_nil]
    omega
  have none : start.opened.filter (start.isCapped (capOf eligible) fun i => weights.getD i 0) =
      [] := by
    apply List.filter_eq_nil_iff.mpr
    intro j member
    have open' := room j (List.mem_range.mp member)
    simp only [isCapped, proposed, decide_eq_true_eq, not_le]
    exact open'
  have filled : filled total eligible policy =
      start.fillRound (capOf eligible) fun i => weights.getD i 0 := by
    unfold filled
    rw [weightsAre]
    exact fill_of_uncapped (by omega) running none
  rw [filled]
  simp only [fillRound, none, List.isEmpty_nil, if_true]
  rw [if_pos (List.mem_range.mpr bound), proposed]

theorem weighted_of_negative {policy : AllocationPolicy} {eligible : List ChildCapacity}
    {sign weight : ℚ} (member : weight ∈ policyWeights policy eligible sign)
    (negative : weight < 0) : 0 < (policyWeights policy eligible sign).sum := by
  have evenly : weight ∉ List.replicate eligible.length 1 := by
    intro even
    rw [List.eq_of_mem_replicate even] at negative
    exact absurd negative (by norm_num)
  cases policy with
  | equalSplit => exact absurd member evenly
  | socWeighted =>
      unfold policyWeights at member ⊢
      dsimp only at member ⊢
      by_cases flat : (eligible.map fun c =>
          if 0 < sign then c.stateOfCharge else 100 - c.stateOfCharge).sum ≤ epsilon
      · rw [if_pos flat] at member
        exact absurd member evenly
      · rw [if_neg flat]
        exact epsilon_pos.trans (not_le.mp flat)

theorem signOf_signOf (total : ℚ) : signOf (signOf total) = signOf total := by
  unfold signOf
  split <;> simp

theorem eligibleChildren_roomy (headroom : ℚ) (children : List ChildCapacity) :
    eligibleChildren (roomy headroom children) = roomy headroom (eligibleChildren children) := by
  unfold eligibleChildren roomy
  rw [List.filter_map]
  rfl

theorem capOf_roomy {headroom : ℚ} (nonneg : 0 ≤ headroom) {eligible : List ChildCapacity} {i : ℕ}
    (bound : i < eligible.length) : capOf (roomy headroom eligible) i = headroom := by
  have bound' : i < (roomy headroom eligible).length := by simpa [roomy] using bound
  rw [capOf_getElem _ bound']
  simpa [roomy] using nonneg

theorem exists_gt_of_mem (values : List ℚ) :
    ∃ bound, 0 ≤ bound ∧ ∀ value ∈ values, value < bound := by
  induction values with
  | nil => exact ⟨0, le_rfl, by simp⟩
  | cons first rest ih =>
      obtain ⟨bound, nonneg, above⟩ := ih
      refine ⟨max bound (first + 1), le_max_of_le_left nonneg, ?_⟩
      intro value member
      rcases List.mem_cons.mp member with rfl | later
      · exact lt_max_of_lt_right (lt_add_one _)
      · exact lt_max_of_lt_left (above value later)

section Roomy

variable {total : ℚ} {children : List ChildCapacity} {policy : AllocationPolicy} {weights : List ℚ}
  (weightsAre : policyWeights policy (eligibleChildren children) (signOf total) = weights)

include weightsAre

theorem length_eligible_roomy (headroom : ℚ) :
    (eligibleChildren (roomy headroom children)).length = weights.length := by
  rw [← weightsAre, length_policyWeights, eligibleChildren_roomy, roomy, List.length_map]

/-- Where no child reaches its cap, a demand of one is split by weight. -/
theorem filled_roomy (weighted : 0 < weights.sum) {headroom : ℚ} (nonneg : 0 ≤ headroom)
    (room : ∀ weight ∈ weights, weight / weights.sum < headroom) {i : ℕ}
    (bound : i < weights.length) :
    (filled (signOf total) (eligibleChildren (roomy headroom children)) policy).shares i =
      weights[i] / weights.sum := by
  have length := length_eligible_roomy weightsAre headroom
  have roomyWeights : policyWeights policy (eligibleChildren (roomy headroom children))
      (signOf (signOf total)) = weights := by
    rw [signOf_signOf, policyWeights_of_readings (readings_roomy headroom children), weightsAre]
  have asked : epsilon < |signOf total| := by
    rw [abs_signOf]
    norm_num [epsilon]
  rw [filled_shares_of_uncapped roomyWeights asked weighted ?_ (by omega), abs_signOf, one_mul,
    List.getD_eq_getElem _ _ bound]
  intro j inside
  have among : j < weights.length := by omega
  rw [eligibleChildren_roomy] at inside ⊢
  rw [capOf_roomy nonneg (by simpa [roomy] using inside), abs_signOf, one_mul,
    List.getD_eq_getElem _ _ among]
  exact room _ (List.getElem_mem among)

end Roomy

theorem not_withCommand_of_negative {total : ℚ} {children : List ChildCapacity}
    {policy : AllocationPolicy} {weight : ℚ}
    (member : weight ∈ policyWeights policy (eligibleChildren children) (signOf total))
    (negative : weight < 0) :
    ∃ headroom, ¬WithCommand (signOf total) (roomy headroom children) policy := by
  have weighted := weighted_of_negative member negative
  obtain ⟨weights, weightsAre⟩ :
      ∃ weights, policyWeights policy (eligibleChildren children) (signOf total) = weights :=
    ⟨_, rfl⟩
  rw [weightsAre] at member weighted
  obtain ⟨i, bound, rfl⟩ := List.mem_iff_getElem.mp member
  obtain ⟨headroom, nonneg, above⟩ := exists_gt_of_mem (weights.map fun w => w / weights.sum)
  refine ⟨headroom, ?_⟩
  intro along
  have size := length_eligible_roomy weightsAre headroom
  have given := (withCommand_iff.mp along i (by omega)).1
  have share := filled_roomy weightsAre weighted nonneg
    (fun w present => above _ (List.mem_map.mpr ⟨w, present, rfl⟩)) bound
  rw [share, mul_right_comm, signOf_mul_self, abs_signOf, one_mul, signOf_signOf] at given
  have against : weights[i] / weights.sum < 0 := div_neg_of_neg_of_pos negative weighted
  have moved : signOf total ≠ 0 := by
    intro none
    have one := abs_signOf total
    rw [none, abs_zero] at one
    exact absurd one (by norm_num)
  rcases given with zero | along
  · exact against.ne ((mul_eq_zero.mp zero).resolve_left moved)
  · exact absurd along (not_lt.mpr against.le)

/-- The readings of the children are safe for every amount in one direction and every headroom
exactly when none of their weights is negative. -/
theorem allocate_withCommand_iff (total : ℚ) (children : List ChildCapacity)
    (policy : AllocationPolicy) :
    (∀ amount others, signOf amount = signOf total → readings others = readings children →
      WithCommand amount others policy) ↔
    ∀ weight ∈ policyWeights policy (eligibleChildren children) (signOf total), 0 ≤ weight := by
  constructor
  · intro safe weight member
    by_contra negative
    obtain ⟨headroom, against⟩ := not_withCommand_of_negative member (not_le.mp negative)
    exact against (safe _ _ (signOf_signOf total) (readings_roomy headroom children))
  · intro weights amount others direction same
    apply withCommand_of_weights
    rwa [direction, policyWeights_of_readings same]

def twoRacks : List ChildCapacity := [
  ⟨"rack-1", .standby, 100, -10⟩,
  ⟨"rack-2", .standby, 100, 50⟩]

/-- A rack that reads -10 percent is charged with 10 while the other one discharges 50. -/
theorem rack_driven_against_command :
    allocate 40 twoRacks .socWeighted = [("rack-1", -10), ("rack-2", 50)] ∧
      ¬WithCommand 40 twoRacks .socWeighted := by
  have shares : allocate 40 twoRacks .socWeighted = [("rack-1", -10), ("rack-2", 50)] := by
    decide +kernel
  refine ⟨shares, ?_⟩
  intro along
  have first := along (⟨"rack-1", .standby, 100, -10⟩, ("rack-1", -10))
    (by rw [shares]; decide +kernel)
  exact absurd first.1 (by norm_num)

end EmsGateway.Dispatch
