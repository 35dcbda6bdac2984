import EmsGateway.Dispatch.Allocation
import EmsGateway.Dispatch.DistributeCore

/-!
What a successful `computeShares` promises about every child. `Resolves` relates a child of the
binding to the capacity read for it; the allocation is then judged in the binding's own terms,
by `isUsable` (reporting, and neither faulted nor offline) and `usableCap` (its room in the
direction of the target, nothing at or below the reserve floor).
-/

namespace EmsGateway.Dispatch

open EmsGateway.Asyncapi EmsGateway.Library

section Readings

variable (binding : DistributeBinding) (target : ℚ) (siteId : String) (cache : InputCache)
  (now : Instant)

def socReading (c : ChildAllocation) : Option ℚ :=
  (socEntry c siteId cache).bind fun entry => asNumber entry.1

def isUsable (c : ChildAllocation) : Bool :=
  match stateEntry c siteId cache, socEntry c siteId cache with
  | some state, some soc =>
      decide (elapsed now state.2 ≤ staleAfter) && decide (elapsed now soc.2 ≤ staleAfter) &&
        match operatingState state.1 with
        | .ok reported => reported.isEligible
        | .error _ => false
  | _, _ => false

def atReserveFloor (c : ChildAllocation) : Bool :=
  match effectiveFloorPercent binding siteId cache, socReading siteId cache c with
  | some floor, some soc => decide (0 < target ∧ soc ≤ floor)
  | _, _ => false

def usableCap (c : ChildAllocation) : ℚ :=
  if atReserveFloor binding target siteId cache c then 0
  else max (rackHeadroom c target siteId cache now) 0

def usableTotal (locked : Finset String) : ℚ :=
  (((unlockedChildren binding locked).filter (isUsable siteId cache now)).map
    (usableCap binding target siteId cache now)).sum

structure Resolves (c : ChildAllocation) (child : ChildCapacity) : Prop where
  deviceId : child.deviceId = c.deviceId
  soc : socReading siteId cache c = some child.stateOfCharge
  eligible : child.operatingState.isEligible = isUsable siteId cache now c
  cap : max child.headroom 0 = usableCap binding target siteId cache now c

end Readings

section Resolution

variable {binding : DistributeBinding} {target : ℚ} {siteId : String} {cache : InputCache}
  {now : Instant} {c : ChildAllocation} {child : ChildCapacity}

theorem applyReserveFloor_keeps (floor : Option ℚ) (child : ChildCapacity) (target : ℚ) :
    applyReserveFloor floor child target =
      { child with headroom := (applyReserveFloor floor child target).headroom } := by
  unfold applyReserveFloor
  split
  · split <;> rfl
  · rfl

theorem applyReserveFloor_cap (soc : socReading siteId cache c = some child.stateOfCharge)
    (room : child.headroom = rackHeadroom c target siteId cache now) :
    max (applyReserveFloor (effectiveFloorPercent binding siteId cache) child target).headroom 0 =
      usableCap binding target siteId cache now c := by
  unfold applyReserveFloor usableCap atReserveFloor
  rw [soc, ← room]
  cases effectiveFloorPercent binding siteId cache with
  | none => simp
  | some floor =>
      by_cases reserved : 0 < target ∧ child.stateOfCharge ≤ floor
      · simp [reserved]
      · simp only [reserved, if_false, decide_false, Bool.false_eq_true]

theorem resolveChild_ok (resolved : resolveChild c target siteId cache now = .ok child) :
    child.deviceId = c.deviceId ∧ socReading siteId cache c = some child.stateOfCharge ∧
      child.operatingState.isEligible = isUsable siteId cache now c ∧
      child.headroom = rackHeadroom c target siteId cache now := by
  unfold resolveChild at resolved
  obtain ⟨state, stateFound, resolved⟩ := bind_ok resolved
  obtain ⟨soc, socFound, resolved⟩ := bind_ok resolved
  obtain ⟨charge, numeric, resolved⟩ := bind_ok resolved
  obtain ⟨reported, read, resolved⟩ := bind_ok resolved
  have stateFound := okOr_ok stateFound
  have socFound := okOr_ok socFound
  have numeric := okOr_ok numeric
  simp only [pure, Except.pure, Except.ok.injEq] at resolved
  subst resolved
  refine ⟨rfl, by simp [socReading, socFound, numeric], ?_, rfl⟩
  simp only [isUsable, stateFound, socFound]
  by_cases quiet : staleAfter < elapsed now state.2 ∨ staleAfter < elapsed now soc.2
  · rw [reportedState, if_pos quiet] at read
    simp only [Except.ok.injEq] at read
    subst read
    rcases quiet with quiet | quiet
    · simp [OperatingState.isEligible, not_le.mpr quiet]
    · simp [OperatingState.isEligible, not_le.mpr quiet]
  · rw [reportedState, if_neg quiet] at read
    push Not at quiet
    simp [read, quiet.1, quiet.2]

theorem resolves_of_ok
    (resolved : (do
      let child ← resolveChild c target siteId cache now
      return applyReserveFloor (effectiveFloorPercent binding siteId cache) child target) =
        Except.ok child) :
    Resolves binding target siteId cache now c child := by
  obtain ⟨raw, read, same⟩ := bind_ok resolved
  simp only [pure, Except.pure, Except.ok.injEq] at same
  subst same
  obtain ⟨identity, soc, eligible, room⟩ := resolveChild_ok read
  refine ⟨?_, ?_, ?_, applyReserveFloor_cap soc room⟩
  · rw [applyReserveFloor_keeps]
    exact identity
  · rw [applyReserveFloor_keeps]
    exact soc
  · rw [applyReserveFloor_keeps]
    exact eligible

theorem usableCap_nonneg : 0 ≤ usableCap binding target siteId cache now c := by
  unfold usableCap
  split
  · exact le_rfl
  · exact le_max_right _ _

theorem usableTotal_nonneg {locked : Finset String} :
    0 ≤ usableTotal binding target siteId cache now locked := by
  refine List.sum_nonneg ?_
  intro cap member
  obtain ⟨c, _, rfl⟩ := List.mem_map.mp member
  exact usableCap_nonneg

theorem usableCap_le_static :
    usableCap binding target siteId cache now c ≤ max 0 (staticBound c target) := by
  unfold usableCap rackHeadroom
  split
  · exact le_max_left _ _
  · split
    · exact max_le ((min_le_left _ _).trans (le_max_right _ _)) (le_max_left _ _)
    · exact max_le (le_max_right _ _) (le_max_left _ _)

theorem usableCap_le_live {limit : ℚ} (fresh : liveLimit c target siteId cache now = some limit) :
    usableCap binding target siteId cache now c ≤ max 0 limit := by
  unfold usableCap rackHeadroom
  rw [fresh]
  split
  · exact le_max_left _ _
  · refine max_le ((min_le_right _ _).trans ?_) (le_max_left _ _)
    exact (max_comm limit 0).le

end Resolution

/-! Children left out of the split are added back at zero. -/

section AddMissing

variable {shares : List (String × ℚ)}

theorem addMissing_cases (shares : List (String × ℚ)) (child : ChildCapacity) :
    (child.deviceId ∈ shares.map Prod.fst ∧ addMissing shares child = shares) ∨
      (child.deviceId ∉ shares.map Prod.fst ∧
        addMissing shares child = shares ++ [(child.deviceId, 0)]) := by
  unfold addMissing
  by_cases present : child.deviceId ∈ shares.map Prod.fst
  · left
    refine ⟨present, if_neg ?_⟩
    obtain ⟨share, member, same⟩ := List.mem_map.mp present
    intro absent
    exact of_decide_eq_true (List.all_eq_true.mp absent share member) same
  · right
    refine ⟨present, if_pos (List.all_eq_true.mpr ?_)⟩
    intro share member
    apply decide_eq_true
    intro same
    exact present (List.mem_map.mpr ⟨share, member, same⟩)

theorem mem_foldl_addMissing (children : List ChildCapacity) {share : String × ℚ}
    (member : share ∈ children.foldl addMissing shares) :
    share ∈ shares ∨ share.2 = 0 ∧ share.1 ∈ children.map ChildCapacity.deviceId := by
  induction children generalizing shares with
  | nil => exact .inl member
  | cons child rest ih =>
      rcases ih member with earlier | ⟨zero, later⟩
      · rcases addMissing_cases shares child with ⟨_, same⟩ | ⟨_, same⟩
        · exact .inl (same ▸ earlier)
        · rw [same, List.mem_append, List.mem_singleton] at earlier
          rcases earlier with kept | rfl
          · exact .inl kept
          · exact .inr ⟨rfl, by simp⟩
      · exact .inr ⟨zero, by simp [later]⟩

theorem nodup_foldl_addMissing (children : List ChildCapacity)
    (nodup : (shares.map Prod.fst).Nodup) :
    ((children.foldl addMissing shares).map Prod.fst).Nodup := by
  induction children generalizing shares with
  | nil => exact nodup
  | cons child rest ih =>
      apply ih
      rcases addMissing_cases shares child with ⟨_, same⟩ | ⟨absent, same⟩
      · rwa [same]
      · rw [same, List.map_append, List.nodup_append]
        refine ⟨nodup, by simp, ?_⟩
        rintro left leftMember right rightMember rfl
        simp only [List.map_cons, List.map_nil, List.mem_singleton] at rightMember
        exact absent (rightMember ▸ leftMember)

theorem ids_subset_foldl_addMissing (children : List ChildCapacity) {id : String}
    (member : id ∈ shares.map Prod.fst) : id ∈ (children.foldl addMissing shares).map Prod.fst := by
  induction children generalizing shares with
  | nil => exact member
  | cons child rest ih =>
      apply ih
      rcases addMissing_cases shares child with ⟨_, same⟩ | ⟨_, same⟩
      · rwa [same]
      · rw [same, List.map_append]
        exact List.mem_append_left _ member

theorem child_mem_foldl_addMissing (children : List ChildCapacity) {id : String}
    (member : id ∈ children.map ChildCapacity.deviceId) :
    id ∈ (children.foldl addMissing shares).map Prod.fst := by
  induction children generalizing shares with
  | nil => simp at member
  | cons child rest ih =>
      rcases List.mem_cons.mp member with rfl | later
      · rw [List.foldl_cons]
        apply ids_subset_foldl_addMissing
        rcases addMissing_cases shares child with ⟨present, same⟩ | ⟨_, same⟩
        · rwa [same]
        · simp [same]
      · exact ih later

theorem magnitude_foldl_addMissing (children : List ChildCapacity) :
    ((children.foldl addMissing shares).map fun share => |share.2|).sum =
      (shares.map fun share => |share.2|).sum := by
  induction children generalizing shares with
  | nil => rfl
  | cons child rest ih =>
      rw [List.foldl_cons, ih]
      rcases addMissing_cases shares child with ⟨_, same⟩ | ⟨_, same⟩
      · rw [same]
      · simp [same]

end AddMissing

/-! The whole of `computeShares`. -/

section Shares

variable {binding : DistributeBinding} {target : ℚ} {siteId : String} {cache : InputCache}
  {now : Instant} {locked : Finset String} {shares : List (String × ℚ)}

theorem computeShares_ok
    (computed : computeShares binding target siteId cache now locked = .ok shares) :
    ∃ policy children,
      List.Forall₂ (Resolves binding target siteId cache now) (unlockedChildren binding locked)
        children ∧
      shares = children.foldl addMissing (allocate target children policy) := by
  unfold computeShares at computed
  obtain ⟨policy, _, computed⟩ := bind_ok computed
  obtain ⟨children, resolved, same⟩ := bind_ok computed
  simp only [pure, Except.pure, Except.ok.injEq] at same
  refine ⟨policy, children, ?_, same.symm⟩
  exact (mapM_ok resolved).imp fun _ _ => resolves_of_ok

theorem Resolves.ids {cs : List ChildAllocation} {children : List ChildCapacity}
    (resolved : List.Forall₂ (Resolves binding target siteId cache now) cs children) :
    children.map ChildCapacity.deviceId = cs.map ChildAllocation.deviceId := by
  induction resolved with
  | nil => rfl
  | cons first _ ih => rw [List.map_cons, List.map_cons, first.deviceId, ih]

theorem Resolves.caps {cs : List ChildAllocation} {children : List ChildCapacity}
    (resolved : List.Forall₂ (Resolves binding target siteId cache now) cs children) :
    ((children.filter fun child => child.operatingState.isEligible).map
        fun child => max child.headroom 0) =
      (cs.filter (isUsable siteId cache now)).map (usableCap binding target siteId cache now) := by
  induction resolved with
  | nil => rfl
  | @cons c child _ _ first _ ih =>
      by_cases usable : isUsable siteId cache now c
      · have eligible : child.operatingState.isEligible = true := first.eligible.trans usable
        rw [List.filter_cons, if_pos eligible, List.filter_cons_of_pos usable, List.map_cons,
          List.map_cons, first.cap, ih]
      · have ineligible : ¬child.operatingState.isEligible = true := by
          rwa [first.eligible]
        rw [List.filter_cons, if_neg ineligible, List.filter_cons_of_neg usable, ih]

theorem Resolves.source {cs : List ChildAllocation} {children : List ChildCapacity}
    (resolved : List.Forall₂ (Resolves binding target siteId cache now) cs children)
    {child : ChildCapacity} (member : child ∈ children) :
    ∃ c ∈ cs, Resolves binding target siteId cache now c child := by
  induction resolved with
  | nil => simp at member
  | cons first _ ih =>
      rcases List.mem_cons.mp member with rfl | later
      · exact ⟨_, List.mem_cons_self, first⟩
      · obtain ⟨c, present, same⟩ := ih later
        exact ⟨c, List.mem_cons_of_mem _ present, same⟩

theorem Resolves.charged {cs : List ChildAllocation} {children : List ChildCapacity}
    (resolved : List.Forall₂ (Resolves binding target siteId cache now) cs children)
    (charged : ∀ c ∈ cs, ∀ soc, socReading siteId cache c = some soc → 0 ≤ soc ∧ soc ≤ 100) :
    ∀ child ∈ children, 0 ≤ child.stateOfCharge ∧ child.stateOfCharge ≤ 100 := by
  intro child member
  obtain ⟨c, present, same⟩ := Resolves.source resolved member
  exact charged c present _ same.soc

/-- What the shares of one call must satisfy, with `bound` for a child's static bound in the
direction of the target. -/
structure SafeShares (binding : DistributeBinding) (target : ℚ) (siteId : String)
    (cache : InputCache) (now : Instant) (locked : Finset String)
    (bound : ChildAllocation → ℚ) (shares : List (String × ℚ)) : Prop where
  once : ∀ c ∈ binding.children, c.deviceId ∉ locked →
    (shares.map Prod.fst).count c.deviceId = 1
  unlocked : ∀ share ∈ shares, share.1 ∉ locked
  parked : ∀ c ∈ binding.children, ∀ state soc, stateEntry c siteId cache = some state →
    socEntry c siteId cache = some soc →
    staleAfter < elapsed now state.2 ∨ staleAfter < elapsed now soc.2 ∨
      operatingState state.1 = .ok .fault ∨ operatingState state.1 = .ok .offline →
    ∀ share, (c.deviceId, share) ∈ shares → share = 0
  reserved : 0 < target → ∀ c ∈ binding.children, ∀ soc floor,
    socReading siteId cache c = some soc →
    effectiveFloorPercent binding siteId cache = some floor → soc ≤ floor →
    ∀ share, (c.deviceId, share) ∈ shares → share = 0
  direction : ∀ share ∈ shares,
    share.2 = 0 ∨ 0 < target ∧ 0 < share.2 ∨ target < 0 ∧ share.2 < 0
  bounded : ∀ c ∈ binding.children, ∀ share, (c.deviceId, share) ∈ shares → |share| ≤ bound c
  limited : ∀ c ∈ binding.children, ∀ limit, liveLimit c target siteId cache now = some limit →
    ∀ share, (c.deviceId, share) ∈ shares → |share| ≤ max 0 limit
  total : |(shares.map fun share => |share.2|).sum -
    min |target| (((unlockedChildren binding locked).filter (isUsable siteId cache now)).map
      (usableCap binding target siteId cache now)).sum| ≤ epsilon

theorem computeShares_unlocked
    (computed : computeShares binding target siteId cache now locked = .ok shares)
    {share : String × ℚ} (member : share ∈ shares) : share.1 ∉ locked := by
  obtain ⟨policy, children, resolved, rfl⟩ := computeShares_ok computed
  have named : share.1 ∈ children.map ChildCapacity.deviceId := by
    rcases mem_foldl_addMissing children member with allocated | ⟨_, added⟩
    · have ids := List.mem_map_of_mem (f := Prod.fst) allocated
      rw [allocate_ids] at ids
      exact (List.filter_sublist.map _).subset ids
    · exact added
  rw [Resolves.ids resolved] at named
  obtain ⟨c, present, identity⟩ := List.mem_map.mp named
  rw [← identity]
  simpa using (List.mem_filter.mp present).2

theorem computeShares_of_small (small : |target| ≤ epsilon)
    (computed : computeShares binding target siteId cache now locked = .ok shares)
    {share : String × ℚ} (member : share ∈ shares) : share.2 = 0 := by
  obtain ⟨policy, children, _, rfl⟩ := computeShares_ok computed
  rcases mem_foldl_addMissing children member with allocated | ⟨zero, _⟩
  · exact allocate_of_small small allocated
  · exact zero

def ShareOf (binding : DistributeBinding) (target : ℚ) (siteId : String) (cache : InputCache)
    (now : Instant) (c : ChildAllocation) (share : ℚ) : Prop :=
  share = 0 ∨ isUsable siteId cache now c = true ∧ ∃ magnitude, share = signOf target * magnitude ∧
    0 ≤ magnitude ∧ magnitude ≤ usableCap binding target siteId cache now c ∧ magnitude ≤ |target|

theorem shareOf_of_mem
    (charged : ∀ c ∈ binding.children, ∀ soc, socReading siteId cache c = some soc →
      0 ≤ soc ∧ soc ≤ 100)
    (computed : computeShares binding target siteId cache now locked = .ok shares)
    {share : String × ℚ} (member : share ∈ shares) :
    ∃ c ∈ unlockedChildren binding locked, c.deviceId = share.1 ∧
      ShareOf binding target siteId cache now c share.2 := by
  obtain ⟨policy, children, resolved, rfl⟩ := computeShares_ok computed
  have chargedChildren := Resolves.charged resolved fun c present =>
    charged c (List.mem_filter.mp present).1
  rcases mem_foldl_addMissing children member with allocated | ⟨zero, added⟩
  · obtain ⟨child, present, eligible, identity, magnitude, same, nonneg, capped, part⟩ :=
      allocate_share chargedChildren allocated
    obtain ⟨c, source, resolves⟩ := Resolves.source resolved present
    refine ⟨c, source, resolves.deviceId.symm.trans identity.symm, .inr ⟨?_, magnitude, same,
      nonneg, ?_, part⟩⟩
    · rw [← resolves.eligible, eligible]
    · rwa [← resolves.cap]
  · rw [Resolves.ids resolved] at added
    obtain ⟨c, source, identity⟩ := List.mem_map.mp added
    exact ⟨c, source, identity, .inl zero⟩

theorem ShareOf.direction {c : ChildAllocation} {share : ℚ}
    (owned : ShareOf binding target siteId cache now c share) :
    share = 0 ∨ 0 < target ∧ 0 < share ∨ target < 0 ∧ share < 0 := by
  rcases owned with zero | ⟨_, magnitude, rfl, nonneg, _, part⟩
  · exact .inl zero
  · rcases nonneg.eq_or_lt with zero | positive
    · exact .inl (by rw [← zero, mul_zero])
    · rcases lt_trichotomy target 0 with negative | zero | forward
      · exact .inr (.inr ⟨negative, by simpa [signOf, negative] using positive⟩)
      · rw [zero, abs_zero] at part
        exact absurd positive (not_lt.mpr part)
      · exact .inr (.inl ⟨forward, by simpa [signOf, not_lt.mpr forward.le] using positive⟩)

theorem ShareOf.abs_le {c : ChildAllocation} {share : ℚ}
    (owned : ShareOf binding target siteId cache now c share) :
    |share| ≤ usableCap binding target siteId cache now c := by
  rcases owned with zero | ⟨_, magnitude, rfl, nonneg, capped, _⟩
  · rw [zero, abs_zero]
    exact usableCap_nonneg
  · rwa [abs_mul, abs_signOf, one_mul, abs_of_nonneg nonneg]

theorem ShareOf.zero_of_unusable {c : ChildAllocation} {share : ℚ}
    (owned : ShareOf binding target siteId cache now c share)
    (unusable : isUsable siteId cache now c = false) : share = 0 := by
  rcases owned with zero | ⟨usable, _⟩
  · exact zero
  · rw [unusable] at usable
    exact absurd usable Bool.false_ne_true

theorem ShareOf.zero_of_reserved {c : ChildAllocation} {share : ℚ}
    (owned : ShareOf binding target siteId cache now c share)
    (reserved : atReserveFloor binding target siteId cache c = true) : share = 0 := by
  have bound := owned.abs_le
  rw [usableCap, if_pos reserved] at bound
  exact abs_nonpos_iff.mp bound

theorem isUsable_eq_false {c : ChildAllocation} {state soc : CacheEntry}
    (stateFound : stateEntry c siteId cache = some state)
    (socFound : socEntry c siteId cache = some soc)
    (parked : staleAfter < elapsed now state.2 ∨ staleAfter < elapsed now soc.2 ∨
      operatingState state.1 = .ok .fault ∨ operatingState state.1 = .ok .offline) :
    isUsable siteId cache now c = false := by
  simp only [isUsable, stateFound, socFound]
  rcases parked with stale | stale | fault | offline
  · simp [not_le.mpr stale]
  · simp [not_le.mpr stale]
  · simp [fault, OperatingState.isEligible]
  · simp [offline, OperatingState.isEligible]

/-- Every call that succeeds gives each unlocked child exactly one share, and no share goes to
a rack that is locked out, silent, faulted, at its floor or past its limits. -/
theorem computeShares_safe
    (distinct : (binding.children.map ChildAllocation.deviceId).Nodup)
    (charged : ∀ c ∈ binding.children, ∀ soc, socReading siteId cache c = some soc →
      0 ≤ soc ∧ soc ≤ 100)
    (computed : computeShares binding target siteId cache now locked = .ok shares) :
    SafeShares binding target siteId cache now locked
      (fun c => max 0 (staticBound c target)) shares := by
  -- with distinct ids, a share under a child's id is that child's own
  have owned : ∀ c ∈ binding.children, ∀ share, (c.deviceId, share) ∈ shares →
      ShareOf binding target siteId cache now c share := by
    intro c present share member
    obtain ⟨other, source, identity, shareOf⟩ := shareOf_of_mem charged computed member
    have same := List.inj_on_of_nodup_map distinct (List.mem_filter.mp source).1 present identity
    rwa [same] at shareOf
  obtain ⟨policy, children, resolved, sharesAre⟩ := computeShares_ok computed
  have ids := Resolves.ids resolved
  have nodupChildren : (children.map ChildCapacity.deviceId).Nodup := by
    rw [ids]
    exact distinct.sublist (List.filter_sublist.map _)
  refine ⟨?_, ?_, ?_, ?_, ?_, ?_, ?_, ?_⟩
  · intro c present unlocked
    have source : c ∈ unlockedChildren binding locked :=
      List.mem_filter.mpr ⟨present, by simpa using unlocked⟩
    have nodup : (shares.map Prod.fst).Nodup := by
      rw [sharesAre]
      apply nodup_foldl_addMissing
      rw [allocate_ids]
      exact nodupChildren.sublist (List.filter_sublist.map _)
    apply List.count_eq_one_of_mem nodup
    rw [sharesAre]
    apply child_mem_foldl_addMissing
    rw [ids]
    exact List.mem_map_of_mem source
  · intro share member
    exact computeShares_unlocked computed member
  · intro c present state soc stateFound socFound parked share member
    exact (owned c present share member).zero_of_unusable
      (isUsable_eq_false stateFound socFound parked)
  · intro forward c present soc floor socFound floorFound low share member
    apply (owned c present share member).zero_of_reserved
    simp [atReserveFloor, floorFound, socFound, forward, low]
  · intro share member
    obtain ⟨_, _, _, shareOf⟩ := shareOf_of_mem charged computed member
    exact shareOf.direction
  · intro c present share member
    exact (owned c present share member).abs_le.trans usableCap_le_static
  · intro c present limit fresh share member
    exact (owned c present share member).abs_le.trans (usableCap_le_live fresh)
  · rw [sharesAre, magnitude_foldl_addMissing, ← Resolves.caps resolved]
    exact allocate_total (Resolves.charged resolved fun c present =>
      charged c (List.mem_filter.mp present).1)

theorem signOf_mul_abs (target : ℚ) : signOf target * |target| = target := by
  unfold signOf
  split
  · rename_i negative
    rw [abs_of_neg negative]
    ring
  · rename_i forward
    rw [abs_of_nonneg (not_lt.mp forward), one_mul]

theorem sum_of_direction {values : List ℚ} {target : ℚ}
    (direction : ∀ value ∈ values, value = 0 ∨ 0 < target ∧ 0 < value ∨ target < 0 ∧ value < 0) :
    values.sum = signOf target * (values.map fun value => |value|).sum := by
  rw [← List.sum_map_mul_left]
  congr 1
  conv_lhs => rw [← List.map_id values]
  apply List.map_congr_left
  intro value member
  rcases direction value member with rfl | ⟨forward, positive⟩ | ⟨backward, negative⟩
  · simp
  · rw [signOf, if_neg (not_lt.mpr forward.le), abs_of_pos positive, one_mul, id]
  · rw [signOf, if_pos backward, abs_of_neg negative, neg_one_mul, neg_neg, id]

theorem computeShares_met_iff
    (charged : ∀ c ∈ binding.children, ∀ soc, socReading siteId cache c = some soc →
      0 ≤ soc ∧ soc ≤ 100)
    (computed : computeShares binding target siteId cache now locked = .ok shares) :
    |(shares.map Prod.snd).sum - target| ≤ epsilon ↔
      |target| ≤ usableTotal binding target siteId cache now locked + epsilon := by
  have direction : ∀ value ∈ shares.map Prod.snd,
      value = 0 ∨ 0 < target ∧ 0 < value ∨ target < 0 ∧ value < 0 := by
    intro value member
    obtain ⟨share, present, rfl⟩ := List.mem_map.mp member
    obtain ⟨_, _, _, shareOf⟩ := shareOf_of_mem charged computed present
    exact shareOf.direction
  have signed : |(shares.map Prod.snd).sum - target| =
      abs ((shares.map fun share => |share.2|).sum - |target|) := by
    calc |(shares.map Prod.snd).sum - target|
        = abs (signOf target * (shares.map fun share => |share.2|).sum -
            signOf target * |target|) := by
          rw [sum_of_direction direction, List.map_map, signOf_mul_abs]
          rfl
      _ = abs ((shares.map fun share => |share.2|).sum - |target|) := by
          rw [← mul_sub, abs_mul, abs_signOf, one_mul]
  obtain ⟨policy, children, resolved, rfl⟩ := computeShares_ok computed
  have chargedChildren := Resolves.charged resolved fun c present =>
    charged c (List.mem_filter.mp present).1
  rw [signed, magnitude_foldl_addMissing, usableTotal, ← Resolves.caps resolved]
  exact allocate_met_iff chargedChildren

end Shares

/-! Whether shares can be computed at all depends on the readings, not on the target. -/

theorem resolveChild_isOk (c : ChildAllocation) (siteId : String) (cache : InputCache)
    (now : Instant) (target other : ℚ) :
    (resolveChild c target siteId cache now).isOk =
      (resolveChild c other siteId cache now).isOk := by
  unfold resolveChild
  apply isOk_bind_congr
  intro state
  apply isOk_bind_congr
  intro soc
  apply isOk_bind_congr
  intro charge
  rw [isOk_bind_pure, isOk_bind_pure]

theorem computeShares_isOk (binding : DistributeBinding) (siteId : String) (cache : InputCache)
    (now : Instant) (locked : Finset String) (target other : ℚ) :
    (computeShares binding target siteId cache now locked).isOk =
      (computeShares binding other siteId cache now locked).isOk := by
  unfold computeShares
  apply isOk_bind_congr
  intro policy
  simp only [isOk_bind_pure]
  apply isOk_mapM_congr
  intro c _
  rw [isOk_bind_pure, isOk_bind_pure]
  exact resolveChild_isOk c siteId cache now target other

/-! A site with racks `r1` to `r4`: `r3` reports FAULT and `r2` is the least charged. -/

def rack (deviceId : String) (powerMax : ℚ) : ChildAllocation :=
  { deviceId := deviceId
    operatingStateTopic := "sites/\x7bsite_id\x7d/" ++ deviceId ++ "/state"
    stateOfChargeTopic := "sites/\x7bsite_id\x7d/" ++ deviceId ++ "/soc"
    powerMin := -50
    powerMax := powerMax }

def rackSoc (deviceId : String) : ℚ := if deviceId = "r2" then 20 else 80

def rackCache : InputCache := fun topic =>
  match ["r1", "r2", "r3", "r4"].find? fun id => topic = "sites/s1/" ++ id ++ "/state" with
  | some id => some (.str (if id = "r3" then "FAULT" else "STANDBY"), 0)
  | none =>
      (["r1", "r2", "r3", "r4"].find? fun id => topic = "sites/s1/" ++ id ++ "/soc").map
        fun id => (.number (rackSoc id), 0)

def rackBinding (children : List ChildAllocation) : DistributeBinding :=
  { allocationPolicy := "soc_weighted", children := children }

def fourRacks : List ChildAllocation := [rack "r1" 100, rack "r2" 100, rack "r3" 100, rack "r4" 100]

theorem computeShares_safe_four_racks :
    computeShares (rackBinding fourRacks) 60 "s1" rackCache 0 {"r4"} =
      .ok [("r1", 48), ("r2", 12), ("r3", 0)] ∧
    SafeShares (rackBinding fourRacks) 60 "s1" rackCache 0 {"r4"}
      (fun c => max 0 (staticBound c 60)) [("r1", 48), ("r2", 12), ("r3", 0)] := by
  have computed : computeShares (rackBinding fourRacks) 60 "s1" rackCache 0 {"r4"} =
      .ok [("r1", 48), ("r2", 12), ("r3", 0)] := by decide +kernel
  have readings : ∀ c ∈ fourRacks, socReading "s1" rackCache c = some (rackSoc c.deviceId) := by
    decide +kernel
  have within : ∀ c ∈ fourRacks, 0 ≤ rackSoc c.deviceId ∧ rackSoc c.deviceId ≤ 100 := by
    decide +kernel
  refine ⟨computed, computeShares_safe (by decide +kernel) ?_ computed⟩
  intro c present soc found
  rw [readings c present, Option.some.injEq] at found
  rw [← found]
  exact within c present

/-- A child's static bound may be negative; its zero share then lies above it. -/
theorem computeShares_unsafe_below_zero :
    ¬∀ (binding : DistributeBinding) (target : ℚ) (siteId : String) (cache : InputCache)
      (now : Instant) (locked : Finset String) (shares : List (String × ℚ)),
      (binding.children.map ChildAllocation.deviceId).Nodup →
      (∀ c ∈ binding.children, ∀ soc, socReading siteId cache c = some soc →
        0 ≤ soc ∧ soc ≤ 100) →
      computeShares binding target siteId cache now locked = .ok shares →
      SafeShares binding target siteId cache now locked (fun c => staticBound c target)
        shares := by
  intro claimed
  have computed : computeShares (rackBinding [rack "r1" (-1)]) 60 "s1" rackCache 0 ∅ =
      .ok [("r1", 0)] := by decide +kernel
  have reading : socReading "s1" rackCache (rack "r1" (-1)) = some 80 := by decide +kernel
  have safe := claimed (rackBinding [rack "r1" (-1)]) 60 "s1" rackCache 0 ∅ _ (by decide +kernel)
    (by
      intro c present soc found
      obtain rfl := List.mem_singleton.mp present
      rw [reading, Option.some.injEq] at found
      rw [← found]
      norm_num) computed
  have bounded := safe.bounded (rack "r1" (-1)) List.mem_cons_self 0 List.mem_cons_self
  norm_num [staticBound, rack] at bounded

end EmsGateway.Dispatch
