import EmsGateway.Envelope.Shed

/-!
Which caps a device accepts. A cap is the percentage of the child's maximum, held in the child's
range, rounded to the nearest micro-watt and then up to a whole watt. All of it follows from one
fact: a cap is at most `n` watts when less than half a micro-watt over `n` is asked for. The two
roundings come after the range is applied, so a range that does not end on whole watts can be left.
-/

namespace EmsGateway.Envelope

open EmsGateway.Asyncapi EmsGateway.Dispatch

def microWatt : ℚ := 1 / 1000000

section WholeWatts

variable {exact : ℚ}

theorem wholeWatts_le_iff (nonneg : 0 ≤ exact) (n : ℤ) :
    wholeWatts exact ≤ n ↔ exact < n + microWatt / 2 := by
  have scaled : 0 ≤ exact * 1000000 := by positivity
  have whole : (n : ℚ) * 1000000 = ((n * 1000000 : ℤ) : ℚ) := by push_cast; rfl
  unfold wholeWatts microWatt
  dsimp only
  rw [if_pos scaled, Int.cast_le, Int.ceil_le, div_le_iff₀ (by norm_num), whole, Int.cast_le,
    ← Int.lt_add_one_iff, Int.floor_lt]
  push_cast
  constructor <;> intro bound <;> linarith

theorem exists_wholeWatts (exact : ℚ) : ∃ n : ℤ, wholeWatts exact = n := ⟨_, rfl⟩

theorem le_wholeWatts_iff (nonneg : 0 ≤ exact) (n : ℤ) :
    n ≤ wholeWatts exact ↔ n - 1 + microWatt / 2 ≤ exact := by
  obtain ⟨watts, same⟩ := exists_wholeWatts exact
  have below := wholeWatts_le_iff nonneg (n - 1)
  rw [same, Int.cast_le] at below
  push_cast at below
  rw [same, Int.cast_le, ← not_lt, ← not_lt, ← below]
  omega

theorem sub_lt_wholeWatts (nonneg : 0 ≤ exact) : exact - microWatt / 2 < wholeWatts exact := by
  obtain ⟨watts, same⟩ := exists_wholeWatts exact
  have above := (wholeWatts_le_iff nonneg watts).mp same.le
  rw [same]
  linarith

end WholeWatts

/-! One child -/

/-- What a device asks of a cap, and a fleet of its percentage. -/
structure Accepted (c : CapChild) (percent watts : ℚ) : Prop where
  whole : ∃ n : ℤ, watts = n
  least : c.minW ≤ watts
  most : watts ≤ c.maxW
  enough : c.maxW * percent / 100 - microWatt < c.maxW →
    c.maxW * percent / 100 - microWatt ≤ watts

/-- The percentage leaves the child a whole watt that the two roundings do not miss: below the end
of its range, above the start of it, and not under what is asked. -/
structure LeavesWholeWatt (c : CapChild) (percent : ℚ) : Prop where
  most : c.maxW < ⌊c.maxW⌋ + microWatt / 2 ∨
    c.minW < ⌊c.maxW⌋ + microWatt / 2 ∧ c.maxW * percent / 100 < ⌊c.maxW⌋ + microWatt / 2
  least : ⌈c.minW⌉ - 1 + microWatt / 2 ≤ c.minW ∨
    ⌈c.minW⌉ - 1 + microWatt / 2 ≤ c.maxW ∧
      ⌈c.minW⌉ - 1 + microWatt / 2 ≤ c.maxW * percent / 100
  enough : c.maxW * percent / 100 - microWatt < c.maxW →
    c.maxW * percent / 100 - microWatt ≤ ⌊c.maxW⌋

/-- The range ends on a whole watt, and does not start within half a micro-watt above one. -/
structure EndsOnWholeWatt (c : CapChild) : Prop where
  most : (⌊c.maxW⌋ : ℚ) = c.maxW
  least : ⌈c.minW⌉ - 1 + microWatt / 2 ≤ c.minW

section Child

variable {c : CapChild} (nonneg : 0 ≤ c.minW) (ordered : c.minW ≤ c.maxW)

include nonneg

theorem asked_nonneg (percent : ℚ) :
    0 ≤ max c.minW (min (c.maxW * percent / 100) c.maxW) :=
  nonneg.trans (le_max_left _ _)

theorem le_childCap_iff (percent : ℚ) : c.minW ≤ childCap c percent ↔
    ⌈c.minW⌉ - 1 + microWatt / 2 ≤ c.minW ∨
      ⌈c.minW⌉ - 1 + microWatt / 2 ≤ c.maxW ∧
        ⌈c.minW⌉ - 1 + microWatt / 2 ≤ c.maxW * percent / 100 := by
  obtain ⟨watts, same⟩ :=
    exists_wholeWatts (max c.minW (min (c.maxW * percent / 100) c.maxW))
  have whole := le_wholeWatts_iff (asked_nonneg nonneg percent) ⌈c.minW⌉
  rw [same, Int.cast_le, Int.ceil_le, le_max_iff, le_min_iff] at whole
  rw [childCap, same, whole, and_comm]

theorem asked_le_childCap (percent : ℚ) (below : c.maxW * percent / 100 ≤ c.maxW) :
    c.maxW * percent / 100 - microWatt ≤ childCap c percent := by
  have near := sub_lt_wholeWatts (asked_nonneg nonneg percent)
  have held : c.maxW * percent / 100 ≤ max c.minW (min (c.maxW * percent / 100) c.maxW) :=
    le_max_of_le_right (le_min le_rfl below)
  have positive : 0 < microWatt := by norm_num [microWatt]
  unfold childCap
  linarith

theorem childCap_mono (ordered : c.minW ≤ c.maxW) {percent other : ℚ} (more : percent ≤ other) :
    childCap c percent ≤ childCap c other := by
  have asked : c.maxW * percent / 100 ≤ c.maxW * other / 100 := by
    have most : 0 ≤ c.maxW := nonneg.trans ordered
    gcongr
  exact wholeWatts_mono (max_le_max_left _ (min_le_min_right _ asked))

include ordered

theorem childCap_le_iff (percent : ℚ) : childCap c percent ≤ c.maxW ↔
    c.maxW < ⌊c.maxW⌋ + microWatt / 2 ∨
      c.minW < ⌊c.maxW⌋ + microWatt / 2 ∧
        c.maxW * percent / 100 < ⌊c.maxW⌋ + microWatt / 2 := by
  obtain ⟨watts, same⟩ :=
    exists_wholeWatts (max c.minW (min (c.maxW * percent / 100) c.maxW))
  have whole := wholeWatts_le_iff (asked_nonneg nonneg percent) ⌊c.maxW⌋
  rw [same, Int.cast_le, Int.le_floor, max_lt_iff, min_lt_iff] at whole
  rw [childCap, same, whole]
  constructor
  · rintro ⟨start, asked | whole⟩
    · exact .inr ⟨start, asked⟩
    · exact .inl whole
  · rintro (whole | ⟨start, asked⟩)
    · exact ⟨ordered.trans_lt whole, .inr whole⟩
    · exact ⟨start, .inl asked⟩

/-- Where more than the maximum is asked, the cap is the last whole watt of the range or above. -/
theorem floor_le_childCap {percent : ℚ} (beyond : c.maxW ≤ c.maxW * percent / 100) :
    ⌊c.maxW⌋ ≤ childCap c percent := by
  unfold childCap
  rw [min_eq_right beyond, max_eq_right ordered]
  apply (le_wholeWatts_iff (nonneg.trans ordered) ⌊c.maxW⌋).mpr
  have floor := Int.floor_le c.maxW
  norm_num [microWatt]
  linarith

theorem accepted_iff (percent : ℚ) :
    Accepted c percent (childCap c percent) ↔ LeavesWholeWatt c percent := by
  constructor
  · intro accepted
    refine ⟨(childCap_le_iff nonneg ordered percent).mp accepted.most,
      (le_childCap_iff nonneg percent).mp accepted.least, ?_⟩
    intro below
    obtain ⟨watts, whole⟩ := accepted.whole
    have most := accepted.most
    rw [whole] at most
    refine (accepted.enough below).trans ?_
    rw [whole]
    exact Int.cast_le.mpr (Int.le_floor.mpr most)
  · intro leaves
    refine ⟨exists_wholeWatts _, (le_childCap_iff nonneg percent).mpr leaves.least,
      (childCap_le_iff nonneg ordered percent).mpr leaves.most, ?_⟩
    intro below
    rcases le_total (c.maxW * percent / 100) c.maxW with under | beyond
    · exact asked_le_childCap nonneg percent under
    · exact (leaves.enough below).trans (floor_le_childCap nonneg ordered beyond)

theorem leavesWholeWatt_all_iff : (∀ percent, LeavesWholeWatt c percent) ↔ EndsOnWholeWatt c := by
  constructor
  · intro leaves
    constructor
    · -- a percentage that asks for halfway between the last whole watt and the maximum
      by_contra fraction
      have floor : (⌊c.maxW⌋ : ℚ) < c.maxW := lt_of_le_of_ne (Int.floor_le _) fraction
      have powered : 0 < c.maxW :=
        lt_of_le_of_lt (Int.cast_nonneg (Int.floor_nonneg.mpr (nonneg.trans ordered))) floor
      have asked : c.maxW * (((⌊c.maxW⌋ + c.maxW) / 2 + microWatt) * 100 / c.maxW) / 100 =
          (⌊c.maxW⌋ + c.maxW) / 2 + microWatt := by
        field_simp
      have enough := (leaves (((⌊c.maxW⌋ + c.maxW) / 2 + microWatt) * 100 / c.maxW)).enough
      rw [asked] at enough
      linarith [enough (by linarith)]
    · rcases (leaves 0).least with start | ⟨_, asked⟩
      · exact start
      · have none : c.maxW * 0 / 100 = 0 := by ring
        rw [none] at asked
        exact asked.trans nonneg
  · intro ends percent
    refine ⟨.inl ?_, .inl ends.least, ?_⟩
    · rw [ends.most]
      norm_num [microWatt]
    · intro below
      rw [ends.most]
      exact below.le

end Child

/-! The caps of a fleet -/

theorem childCaps_eq (binding : PowerCapBinding) (percent : ℚ) : childCaps binding percent =
    binding.children.map fun c => (c.deviceId, "set_" ++ c.target, childCap c percent) := rfl

def CapsAccepted (binding : PowerCapBinding) (percent : ℚ) : Prop :=
  List.Forall₂ (fun c cap => cap.1 = c.deviceId ∧ cap.2.1 = "set_" ++ c.target ∧
    Accepted c percent cap.2.2) binding.children (childCaps binding percent)

theorem capsAccepted_iff {binding : PowerCapBinding}
    (ranges : ∀ c ∈ binding.children, 0 ≤ c.minW ∧ c.minW ≤ c.maxW) (percent : ℚ) :
    CapsAccepted binding percent ↔ ∀ c ∈ binding.children, LeavesWholeWatt c percent := by
  unfold CapsAccepted
  rw [childCaps_eq, List.forall₂_map_right_iff, List.forall₂_same]
  constructor
  · intro accepted c listed
    exact (accepted_iff (ranges c listed).1 (ranges c listed).2 percent).mp (accepted c listed).2.2
  · intro leaves c listed
    exact ⟨rfl, rfl,
      (accepted_iff (ranges c listed).1 (ranges c listed).2 percent).mpr (leaves c listed)⟩

/-- At one percentage and at all of them, a fleet's caps are accepted when the children's ranges
leave them a whole watt; and a larger percentage never makes a smaller cap. -/
theorem caps_accepted_iff (binding : PowerCapBinding)
    (ranges : ∀ c ∈ binding.children, 0 ≤ c.minW ∧ c.minW ≤ c.maxW) :
    (∀ percent, CapsAccepted binding percent ↔
      ∀ c ∈ binding.children, LeavesWholeWatt c percent) ∧
    ((∀ percent, CapsAccepted binding percent) ↔ ∀ c ∈ binding.children, EndsOnWholeWatt c) ∧
    ∀ percent other, percent ≤ other →
      List.Forall₂ (fun cap larger => cap.1 = larger.1 ∧ cap.2.1 = larger.2.1 ∧
        cap.2.2 ≤ larger.2.2) (childCaps binding percent) (childCaps binding other) := by
  refine ⟨capsAccepted_iff ranges, ?_, ?_⟩
  · simp only [capsAccepted_iff ranges]
    constructor
    · intro leaves c listed
      obtain ⟨nonneg, ordered⟩ := ranges c listed
      exact (leavesWholeWatt_all_iff nonneg ordered).mp fun percent => leaves percent c listed
    · intro ends percent c listed
      obtain ⟨nonneg, ordered⟩ := ranges c listed
      exact (leavesWholeWatt_all_iff nonneg ordered).mpr (ends c listed) percent
  · intro percent other more
    rw [childCaps_eq, childCaps_eq, List.forall₂_map_left_iff, List.forall₂_map_right_iff,
      List.forall₂_same]
    intro c listed
    exact ⟨rfl, rfl, childCap_mono (ranges c listed).1 (ranges c listed).2 more⟩

def oneGpu (minW maxW : ℚ) : PowerCapBinding where
  children := [⟨"gpu_node_01", "gpu_1_power_limit", minW, maxW⟩]

theorem caps_accepted_iff_one_gpu :
    CapsAccepted (oneGpu 200 1000) 81 ∧
      childCaps (oneGpu 200 1000) 81 =
        [("gpu_node_01", "set_gpu_1_power_limit", 810)] := by
  have ranges : ∀ c ∈ (oneGpu 200 1000).children, 0 ≤ c.minW ∧ c.minW ≤ c.maxW := by decide +kernel
  have ends : ∀ c ∈ (oneGpu 200 1000).children, EndsOnWholeWatt c := by
    intro c listed
    obtain rfl := List.mem_singleton.mp listed
    exact ⟨by decide +kernel, by decide +kernel⟩
  exact ⟨((caps_accepted_iff (oneGpu 200 1000) ranges).2.1.mpr ends) 81, by decide +kernel⟩

/-- A limit of 700.5 W is asked for 701 W. -/
theorem full_cap_above_the_limit :
    ¬∀ (binding : PowerCapBinding), (∀ c ∈ binding.children, 0 ≤ c.minW ∧ c.minW ≤ c.maxW) →
      (∀ percent, CapsAccepted binding percent) ∧
      ∀ percent other, percent ≤ other →
        List.Forall₂ (fun cap larger => cap.1 = larger.1 ∧ cap.2.1 = larger.2.1 ∧
          cap.2.2 ≤ larger.2.2) (childCaps binding percent) (childCaps binding other) := by
  intro always
  have caps := (always (oneGpu 200 (1401 / 2)) (by decide +kernel)).1 100
  have most : (701 : ℚ) ≤ 1401 / 2 := by
    unfold CapsAccepted at caps
    have watts : childCaps (oneGpu 200 (1401 / 2)) 100 =
        [("gpu_node_01", "set_gpu_1_power_limit", 701)] := by decide +kernel
    rw [watts] at caps
    cases caps with
    | cons first _ => exact first.2.2.most
  norm_num at most

end EmsGateway.Envelope
