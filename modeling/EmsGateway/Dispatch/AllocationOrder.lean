import EmsGateway.Dispatch.SocReadings

/-!
The split as a function of what it is given, not of the order. `Spread` is the loop without
positions: whether a child is still open, and its share, are functions of its cap and its weight.
It reads the children only through sums and counts, which no reordering changes, and the loop over
positions follows it round by round.
-/

namespace EmsGateway.Dispatch

open Filling

/-- The cap and the weight of a child. -/
abbrev Terms := ℚ × ℚ

structure Spread where
  demand : ℚ
  opens : Terms → Bool
  share : Terms → ℚ

namespace Spread

def openWeight (all : List Terms) (s : Spread) : ℚ := ((all.filter s.opens).map Prod.snd).sum

def portion (all : List Terms) (s : Spread) (terms : Terms) : ℚ :=
  s.demand * (if 0 < s.openWeight all then terms.2 / s.openWeight all
    else 1 / (all.filter s.opens).length)

def closes (all : List Terms) (s : Spread) (terms : Terms) : Bool :=
  s.opens terms && decide (terms.1 ≤ s.portion all terms)

def round (all : List Terms) (s : Spread) : Spread :=
  if (all.filter (s.closes all)).isEmpty then
    { demand := 0
      opens := s.opens
      share := fun terms => if s.opens terms then s.portion all terms else s.share terms }
  else
    { demand := s.demand - ((all.filter (s.closes all)).map Prod.fst).sum
      opens := fun terms => s.opens terms && !decide (terms.1 ≤ s.portion all terms)
      share := fun terms => if s.closes all terms then terms.1 else s.share terms }

def running (all : List Terms) (s : Spread) : Bool :=
  decide (epsilon < s.demand) && !(all.filter s.opens).isEmpty

def spread (all : List Terms) : ℕ → Spread → Spread
  | 0, s => s
  | fuel + 1, s => if s.running all then spread all fuel (s.round all) else s

section Perm

variable {all others : List Terms} (same : others.Perm all)

include same

theorem openWeight_perm (s : Spread) : s.openWeight others = s.openWeight all :=
  ((same.filter s.opens).map Prod.snd).sum_eq

theorem portion_perm (s : Spread) : s.portion others = s.portion all := by
  funext terms
  simp only [portion, openWeight_perm same, (same.filter s.opens).length_eq]

theorem closes_perm (s : Spread) : s.closes others = s.closes all := by
  funext terms
  simp only [closes, portion_perm same]

theorem round_perm (s : Spread) : s.round others = s.round all := by
  have consumed := ((same.filter (s.closes all)).map Prod.fst).sum_eq
  have none := (same.filter (s.closes all)).isEmpty_eq
  simp only [round, closes_perm same, portion_perm same, consumed, none]

theorem running_perm (s : Spread) : s.running others = s.running all := by
  simp only [running, (same.filter s.opens).isEmpty_eq]

theorem spread_perm (fuel : ℕ) (s : Spread) : spread others fuel s = spread all fuel s := by
  induction fuel generalizing s with
  | zero => rfl
  | succ fuel ih => simp only [spread, running_perm same, round_perm same, ih]

end Perm

end Spread

namespace Filling

def termsOf (count : ℕ) (cap weight : ℕ → ℚ) : List Terms :=
  (List.range count).map fun i => (cap i, weight i)

/-- A state of the loop over positions is the spread read at each child's terms. -/
structure Follows (count : ℕ) (cap weight : ℕ → ℚ) (spread : Spread) (s : Filling) : Prop where
  demand : s.demand = spread.demand
  opened : s.opened = (List.range count).filter fun i => spread.opens (cap i, weight i)
  shares : ∀ i < count, s.shares i = spread.share (cap i, weight i)

section Follows

variable (count : ℕ) (cap weight : ℕ → ℚ)

theorem map_filter_range {α : Type} (keep : Terms → Bool) (f : Terms → α) :
    ((List.range count).filter fun i => keep (cap i, weight i)).map (fun i => f (cap i, weight i)) =
      ((termsOf count cap weight).filter keep).map f := by
  rw [termsOf, List.filter_map, List.map_map]
  rfl

theorem length_filter_range (keep : Terms → Bool) :
    ((List.range count).filter fun i => keep (cap i, weight i)).length =
      ((termsOf count cap weight).filter keep).length := by
  rw [termsOf, List.filter_map, List.length_map]
  rfl

theorem isEmpty_filter_range (keep : Terms → Bool) :
    ((List.range count).filter fun i => keep (cap i, weight i)).isEmpty =
      ((termsOf count cap weight).filter keep).isEmpty := by
  rw [termsOf, List.filter_map, List.isEmpty_map]
  rfl

variable {count cap weight} {spread : Spread} {s : Filling}

theorem Follows.proposed (follows : Follows count cap weight spread s) (i : ℕ) :
    s.proposed weight i = spread.portion (termsOf count cap weight) (cap i, weight i) := by
  have weights : (s.opened.map weight).sum = spread.openWeight (termsOf count cap weight) := by
    rw [follows.opened]
    exact congrArg List.sum (map_filter_range count cap weight spread.opens Prod.snd)
  have number : s.opened.length = ((termsOf count cap weight).filter spread.opens).length := by
    rw [follows.opened, length_filter_range]
  simp only [Filling.proposed, Spread.portion, weights, number, follows.demand]

theorem Follows.capped (follows : Follows count cap weight spread s) :
    s.opened.filter (s.isCapped cap weight) =
      (List.range count).filter fun i =>
        spread.closes (termsOf count cap weight) (cap i, weight i) := by
  rw [follows.opened, List.filter_filter]
  apply List.filter_congr
  intro i _
  rw [isCapped, follows.proposed, Spread.closes, Bool.and_comm]

theorem Follows.running (follows : Follows count cap weight spread s) :
    s.running = spread.running (termsOf count cap weight) := by
  unfold Filling.running Spread.running
  rw [follows.demand, follows.opened, isEmpty_filter_range]

theorem Follows.round (follows : Follows count cap weight spread s) :
    Follows count cap weight (spread.round (termsOf count cap weight))
      (s.fillRound cap weight) := by
  have none := isEmpty_filter_range count cap weight (spread.closes (termsOf count cap weight))
  unfold fillRound Spread.round
  simp only [follows.capped, none]
  split
  · refine ⟨rfl, follows.opened, ?_⟩
    intro i bound
    simp only [follows.opened, List.mem_filter, List.mem_range, bound, true_and, follows.proposed,
      follows.shares i bound]
  · refine ⟨?_, ?_, ?_⟩
    · have consumed := map_filter_range count cap weight
        (spread.closes (termsOf count cap weight)) Prod.fst
      simp only at consumed ⊢
      rw [follows.demand, consumed]
    · rw [follows.opened, List.filter_filter]
      apply List.filter_congr
      intro i _
      rw [isCapped, follows.proposed, Bool.and_comm]
    · intro i bound
      simp only [List.mem_filter, List.mem_range, bound, true_and, follows.shares i bound]

theorem Follows.fill (fuel : ℕ) (follows : Follows count cap weight spread s) :
    Follows count cap weight (Spread.spread (termsOf count cap weight) fuel spread)
      (fill cap weight fuel s) := by
  induction fuel generalizing spread s with
  | zero => exact follows
  | succ fuel ih =>
      simp only [Filling.fill, Spread.spread, follows.running]
      split
      · exact ih follows.round
      · exact follows

end Follows

end Filling

/-- What decides a child's weight besides its own reading is the sum of all of them. -/
def weightAmong (policy : AllocationPolicy) (eligible : List ChildCapacity) (sign : ℚ)
    (c : ChildCapacity) : ℚ :=
  match policy with
  | .equalSplit => 1
  | .socWeighted =>
      let raw := fun c : ChildCapacity =>
        if 0 < sign then c.stateOfCharge else 100 - c.stateOfCharge
      if (eligible.map raw).sum ≤ epsilon then 1 else raw c

def termsIn (total : ℚ) (policy : AllocationPolicy) (eligible : List ChildCapacity)
    (c : ChildCapacity) : Terms :=
  (max c.headroom 0, weightAmong policy eligible (signOf total) c)

theorem policyWeights_eq_map (policy : AllocationPolicy) (eligible : List ChildCapacity)
    (sign : ℚ) : policyWeights policy eligible sign =
      eligible.map (weightAmong policy eligible sign) := by
  cases policy with
  | equalSplit =>
      unfold policyWeights weightAmong
      simp
  | socWeighted =>
      unfold policyWeights weightAmong
      dsimp only
      by_cases flat : (eligible.map fun c =>
          if 0 < sign then c.stateOfCharge else 100 - c.stateOfCharge).sum ≤ epsilon
      · simp only [if_pos flat, List.map_const']
      · simp only [if_neg flat]

theorem weightAmong_perm {eligible others : List ChildCapacity} (same : others.Perm eligible)
    (policy : AllocationPolicy) (sign : ℚ) :
    weightAmong policy others sign = weightAmong policy eligible sign := by
  funext c
  cases policy with
  | equalSplit => rfl
  | socWeighted => simp only [weightAmong, (same.map _).sum_eq]

section Allocate

variable (total : ℚ) (policy : AllocationPolicy)

def shareOf (eligible : List ChildCapacity) (terms : Terms) : ℚ :=
  (Spread.spread (eligible.map (termsIn total policy eligible)) eligible.length
    ⟨|total|, fun _ => true, fun _ => 0⟩).share terms

theorem terms_getElem (eligible : List ChildCapacity) {i : ℕ} (bound : i < eligible.length) :
    (capOf eligible i, (policyWeights policy eligible (signOf total)).getD i 0) =
      termsIn total policy eligible eligible[i] := by
  rw [capOf_getElem eligible bound, policyWeights_eq_map,
    List.getD_eq_getElem _ _ (by simpa using bound), List.getElem_map]
  rfl

theorem termsOf_eligible (eligible : List ChildCapacity) :
    termsOf eligible.length (capOf eligible)
      (fun i => (policyWeights policy eligible (signOf total)).getD i 0) =
      eligible.map (termsIn total policy eligible) := by
  apply List.ext_getElem
  · simp [termsOf]
  · intro i left right
    have bound : i < eligible.length := by simpa using right
    simp only [termsOf, List.getElem_map, List.getElem_range]
    exact terms_getElem total policy eligible bound

theorem filled_share (eligible : List ChildCapacity) {i : ℕ} (bound : i < eligible.length) :
    (filled total eligible policy).shares i =
      shareOf total policy eligible (termsIn total policy eligible eligible[i]) := by
  have start : Follows eligible.length (capOf eligible)
      (fun i => (policyWeights policy eligible (signOf total)).getD i 0)
      ⟨|total|, fun _ => true, fun _ => 0⟩
      ⟨|total|, List.range eligible.length, fun _ => 0⟩ := by
    refine ⟨rfl, ?_, fun _ _ => rfl⟩
    simp
  have share := (start.fill eligible.length).shares i bound
  rw [terms_getElem total policy eligible bound, termsOf_eligible] at share
  exact share

theorem allocate_eq_map (children : List ChildCapacity) :
    allocate total children policy = (eligibleChildren children).map fun c =>
      (c.deviceId, signOf total * shareOf total policy (eligibleChildren children)
        (termsIn total policy (eligibleChildren children) c)) := by
  apply List.ext_getElem
  · simp [allocate, eligibleChildren]
  · intro i left right
    have bound : i < (eligibleChildren children).length := by simpa using right
    simp only [allocate, List.getElem_mapIdx, List.getElem_map]
    rw [← filled_share total policy _ bound]
    rfl

/-- The split of the children in another order is the same split in that order. -/
theorem allocate_perm {children others : List ChildCapacity} (same : others.Perm children) :
    (allocate total others policy).Perm (allocate total children policy) := by
  have eligible : (eligibleChildren others).Perm (eligibleChildren children) := same.filter _
  have terms : termsIn total policy (eligibleChildren others) =
      termsIn total policy (eligibleChildren children) := by
    funext c
    simp only [termsIn, weightAmong_perm eligible]
  have shares : shareOf total policy (eligibleChildren others) =
      shareOf total policy (eligibleChildren children) := by
    funext c
    simp only [shareOf, terms, eligible.length_eq, Spread.spread_perm (eligible.map _)]
  rw [allocate_eq_map, allocate_eq_map, terms, shares]
  exact eligible.map _

theorem allocate_ids_nodup {children : List ChildCapacity}
    (unique : (children.map ChildCapacity.deviceId).Nodup) :
    ((allocate total children policy).map Prod.fst).Nodup := by
  rw [allocate_ids]
  exact unique.sublist (List.filter_sublist.map _)

end Allocate

end EmsGateway.Dispatch
