import EmsGateway.Synthetic.Freshness

/-!
Two things a site relies on of its derived values. A quantity that is rolled up by means and extremes
only, over however many levels, stays in the range its readings have; and the unbalance of a three
phase voltage is a percentage that neither the order of the phases nor their unit moves.
-/

namespace EmsGateway.Synthetic

open EmsGateway.App EmsGateway.Library

/-! Lists of numbers in a range -/

section Ranges

variable {low high : ℚ} {inputs : List ℚ}

/-- A fold that keeps one of its two operands ends in one of the list. -/
theorem foldl_choice_mem {choose : ℚ → ℚ → ℚ} (choice : ∀ a b, choose a b = a ∨ choose a b = b)
    (items : List ℚ) : ∀ start, items.foldl choose start ∈ start :: items := by
  induction items with
  | nil => exact fun start => List.mem_cons_self
  | cons item items ih =>
      intro start
      rw [List.foldl_cons]
      rcases List.mem_cons.mp (ih (choose start item)) with same | later
      · rw [same]
        rcases choice start item with left | right
        · rw [left]
          exact List.mem_cons_self
        · rw [right]
          exact List.mem_cons_of_mem _ List.mem_cons_self
      · exact List.mem_cons_of_mem _ (List.mem_cons_of_mem _ later)

theorem largest_mem (nonempty : inputs ≠ []) : largest inputs ∈ inputs := by
  obtain ⟨first, rest, rfl⟩ := List.exists_cons_of_ne_nil nonempty
  exact foldl_choice_mem max_choice rest first

theorem smallest_mem (nonempty : inputs ≠ []) : smallest inputs ∈ inputs := by
  obtain ⟨first, rest, rfl⟩ := List.exists_cons_of_ne_nil nonempty
  exact foldl_choice_mem min_choice rest first

theorem weighted_between {pairs : List (ℚ × ℚ)} (weights : ∀ pair ∈ pairs, 0 ≤ pair.2)
    (within : ∀ pair ∈ pairs, low ≤ pair.1 ∧ pair.1 ≤ high) :
    low * (pairs.map Prod.snd).sum ≤ (pairs.map fun pair => pair.1 * pair.2).sum ∧
      (pairs.map fun pair => pair.1 * pair.2).sum ≤ high * (pairs.map Prod.snd).sum := by
  rw [← List.sum_map_mul_left, ← List.sum_map_mul_left]
  refine ⟨List.sum_le_sum ?_, List.sum_le_sum ?_⟩
  · intro pair member
    exact mul_le_mul_of_nonneg_right (within pair member).1 (weights pair member)
  · intro pair member
    exact mul_le_mul_of_nonneg_right (within pair member).2 (weights pair member)

theorem weightedMean_between {pairs : List (ℚ × ℚ)} (weights : ∀ pair ∈ pairs, 0 ≤ pair.2)
    (within : ∀ pair ∈ pairs, low ≤ pair.1 ∧ pair.1 ≤ high) {value : ℚ}
    (computed : weightedMean pairs = .ok value) : low ≤ value ∧ value ≤ high := by
  unfold weightedMean at computed
  dsimp only at computed
  split at computed
  · simp at computed
  · split at computed
    · simp at computed
    · rename_i positive
      obtain rfl := Except.ok.inj computed
      obtain ⟨lower, upper⟩ := weighted_between weights within
      exact ⟨(le_div_iff₀ (not_le.mp positive)).mpr lower,
        (div_le_iff₀ (not_le.mp positive)).mpr upper⟩

theorem mean_between (nonempty : inputs ≠ []) (within : ∀ x ∈ inputs, low ≤ x ∧ x ≤ high) :
    low ≤ mean inputs ∧ mean inputs ≤ high := by
  have positive : (0 : ℚ) < inputs.length := by
    exact_mod_cast List.length_pos_iff.mpr nonempty
  have lower := List.card_nsmul_le_sum inputs low fun x member => (within x member).1
  have upper := List.sum_le_card_nsmul inputs high fun x member => (within x member).2
  rw [nsmul_eq_mul, mul_comm] at lower upper
  exact ⟨(le_div_iff₀ positive).mpr lower, (div_le_iff₀ positive).mpr upper⟩

end Ranges

/-- The computation is an average or an extreme of its inputs. -/
def Averages (computation : Computation) : Prop :=
  match computation with
  | .operation operation _ => operation = .mean ∨ operation = .max ∨ operation = .min
  | .weightedMean pairs => ∀ pair ∈ pairs, 0 ≤ pair.2

theorem nonempty_of_apply {operation : Operation} {inputs : List ℚ} {value : ℚ}
    (averages : operation = .mean ∨ operation = .max ∨ operation = .min)
    (computed : apply operation inputs = .ok value) : inputs ≠ [] := by
  rintro rfl
  rcases averages with rfl | rfl | rfl
  · simp [apply, requireNonempty, Except.map] at computed
  · simp [apply, requireNonempty, Except.map] at computed
  · simp [apply, requireNonempty, Except.map] at computed

theorem apply_between {low high : ℚ} {operation : Operation} {inputs : List ℚ} {value : ℚ}
    (averages : operation = .mean ∨ operation = .max ∨ operation = .min)
    (within : ∀ x ∈ inputs, low ≤ x ∧ x ≤ high) (computed : apply operation inputs = .ok value) :
    low ≤ value ∧ value ≤ high := by
  have nonempty := nonempty_of_apply averages computed
  have filled : ∀ name, requireNonempty inputs name = .ok () := by
    intro name
    simp [requireNonempty, nonempty]
  rcases averages with rfl | rfl | rfl
  · simp only [apply, filled, Except.map, Except.ok.injEq] at computed
    rw [← computed]
    exact mean_between nonempty within
  · simp only [apply, filled, Except.map, Except.ok.injEq] at computed
    rw [← computed]
    exact within _ (largest_mem nonempty)
  · simp only [apply, filled, Except.map, Except.ok.injEq] at computed
    rw [← computed]
    exact within _ (smallest_mem nonempty)

/-! Unbalance -/

theorem foldl_max_le_iff {bound : ℚ} (items : List ℚ) :
    ∀ start, items.foldl max start ≤ bound ↔ start ≤ bound ∧ ∀ x ∈ items, x ≤ bound := by
  induction items with
  | nil => simp
  | cons item items ih =>
      intro start
      rw [List.foldl_cons, ih, max_le_iff, List.forall_mem_cons, and_assoc]

theorem deviation_le_iff {inputs : List ℚ} {bound : ℚ} :
    deviation inputs ≤ bound ↔ 0 ≤ bound ∧ ∀ x ∈ inputs, |x - mean inputs| ≤ bound := by
  unfold deviation
  rw [foldl_max_le_iff, List.forall_mem_map]

theorem deviation_nonneg (inputs : List ℚ) : 0 ≤ deviation inputs :=
  (deviation_le_iff.mp le_rfl).1

theorem mean_perm {inputs other : List ℚ} (same : other.Perm inputs) : mean other = mean inputs := by
  unfold mean
  rw [same.sum_eq, same.length_eq]

theorem mean_scaled (unit : ℚ) (inputs : List ℚ) :
    mean (inputs.map (unit * ·)) = unit * mean inputs := by
  unfold mean
  rw [List.sum_map_mul_left, List.map_id', List.length_map, mul_div_assoc]

theorem mean_of_equal {inputs : List ℚ} (nonempty : inputs ≠ []) {level : ℚ}
    (equal : ∀ x ∈ inputs, x = level) : mean inputs = level := by
  have within : ∀ x ∈ inputs, level ≤ x ∧ x ≤ level := fun x member =>
    ⟨(equal x member).ge, (equal x member).le⟩
  obtain ⟨lower, upper⟩ := mean_between nonempty within
  exact le_antisymm upper lower

theorem deviation_perm {inputs other : List ℚ} (same : other.Perm inputs) :
    deviation other = deviation inputs := by
  apply eq_of_forall_ge_iff
  intro bound
  rw [deviation_le_iff, deviation_le_iff, mean_perm same]
  simp only [same.mem_iff]

theorem deviation_scaled {unit : ℚ} (positive : 0 < unit) (inputs : List ℚ) :
    deviation (inputs.map (unit * ·)) = unit * deviation inputs := by
  apply eq_of_forall_ge_iff
  intro bound
  rw [deviation_le_iff, mean_scaled, List.forall_mem_map, ← le_div_iff₀' positive,
    deviation_le_iff]
  have least : 0 ≤ bound / unit ↔ 0 ≤ bound := by
    rw [le_div_iff₀ positive, zero_mul]
  have one : ∀ x, |unit * x - unit * mean inputs| ≤ bound ↔ |x - mean inputs| ≤ bound / unit := by
    intro x
    rw [← mul_sub, abs_mul, abs_of_pos positive, le_div_iff₀' positive]
  simp only [one, least]

theorem deviation_eq_zero_iff {inputs : List ℚ} (nonempty : inputs ≠ []) :
    deviation inputs = 0 ↔ ∀ x ∈ inputs, ∀ y ∈ inputs, x = y := by
  constructor
  · intro none x member y other
    have level := (deviation_le_iff.mp none.le).2
    have first := abs_nonpos_iff.mp (level x member)
    have second := abs_nonpos_iff.mp (level y other)
    rw [sub_eq_zero.mp first, sub_eq_zero.mp second]
  · intro equal
    refine le_antisymm (deviation_le_iff.mpr ⟨le_rfl, ?_⟩) (deviation_nonneg inputs)
    intro x member
    rw [mean_of_equal nonempty fun y other => equal y other x member, sub_self, abs_zero]

theorem deviation_le_mean {inputs : List ℚ} (nonempty : inputs ≠ [])
    (nonneg : ∀ x ∈ inputs, 0 ≤ x) : deviation inputs ≤ (inputs.length - 1) * mean inputs := by
  have count : (1 : ℚ) ≤ inputs.length := by
    exact_mod_cast List.length_pos_iff.mpr nonempty
  have total : inputs.length * mean inputs = inputs.sum :=
    mul_div_cancel₀ _ (by linarith)
  have level : 0 ≤ mean inputs := div_nonneg (List.sum_nonneg nonneg) (by linarith)
  refine deviation_le_iff.mpr ⟨mul_nonneg (by linarith) level, ?_⟩
  intro x member
  have part : x ≤ inputs.sum := List.single_le_sum nonneg x member
  rcases Nat.lt_or_ge inputs.length 2 with single | several
  · -- one phase is its own mean
    obtain ⟨only, rfl⟩ := List.length_eq_one_iff.mp
      (show inputs.length = 1 by have := List.length_pos_iff.mpr nonempty; omega)
    obtain rfl := List.mem_singleton.mp member
    simp [mean]
  · have two : (2 : ℚ) ≤ inputs.length := by exact_mod_cast several
    have spare := mul_nonneg (sub_nonneg.mpr two) level
    rw [abs_le]
    constructor
    · linarith [nonneg x member]
    · linarith

/-- What `apply` computes for `unbalance`. -/
theorem apply_unbalance_iff {phases : List ℚ} {value : ℚ} :
    apply .unbalance phases = .ok value ↔
      phases ≠ [] ∧ 0 < mean phases ∧ value = 100 * deviation phases / mean phases := by
  by_cases empty : phases = []
  · subst empty
    simp [apply, requireNonempty, bind, Except.bind]
  · by_cases positive : mean phases ≤ 0
    · simp [apply, requireNonempty, empty, positive, bind, Except.bind]
    · simp only [apply, requireNonempty, List.isEmpty_iff, empty, if_false, bind, Except.bind,
        positive, pure, Except.pure, Except.ok.injEq]
      exact ⟨fun same => ⟨empty, not_le.mp positive, same.symm⟩, fun held => held.2.2.symm⟩

/-- Unbalance is a percentage of the level: none just when the phases agree, at most `n - 1` times the
level, and the same in every order of the phases and every unit. -/
theorem unbalance_percentage {phases : List ℚ} {value : ℚ}
    (computed : apply .unbalance phases = .ok value) :
    0 ≤ value ∧ (value = 0 ↔ ∀ x ∈ phases, ∀ y ∈ phases, x = y) ∧
      ((∀ x ∈ phases, 0 ≤ x) → value ≤ 100 * (phases.length - 1)) ∧
      ∀ unit > 0, ∀ other, other.Perm (phases.map (unit * ·)) →
        apply .unbalance other = .ok value := by
  obtain ⟨nonempty, positive, rfl⟩ := apply_unbalance_iff.mp computed
  refine ⟨div_nonneg (mul_nonneg (by norm_num) (deviation_nonneg phases)) positive.le, ?_, ?_, ?_⟩
  · rw [div_eq_zero_iff, mul_eq_zero, or_iff_left positive.ne', or_iff_right (by norm_num)]
    exact deviation_eq_zero_iff nonempty
  · intro nonneg
    rw [div_le_iff₀ positive]
    linarith [deviation_le_mean nonempty nonneg]
  · intro unit proper other same
    have level : mean other = unit * mean phases := by rw [mean_perm same, mean_scaled]
    have apart : deviation other = unit * deviation phases := by
      rw [deviation_perm same, deviation_scaled proper]
    refine apply_unbalance_iff.mpr ⟨?_, ?_, ?_⟩
    · rintro rfl
      exact nonempty (List.map_eq_nil_iff.mp same.nil_eq.symm)
    · rw [level]
      exact mul_pos proper positive
    · rw [level, apart, mul_left_comm, mul_div_mul_left _ _ proper.ne']

theorem unbalance_percentage_millivolts :
    0 ≤ (5 / 12 : ℚ) ∧ apply .unbalance [241000, 240000, 239000] = .ok (5 / 12) := by
  have computed : apply .unbalance [239, 240, 241] = .ok (5 / 12) := by
    refine apply_unbalance_iff.mpr ⟨by simp, ?_, ?_⟩
    · norm_num [mean]
    · norm_num [mean, deviation]
  obtain ⟨nonneg, _, _, units⟩ := unbalance_percentage computed
  refine ⟨nonneg, units 1000 (by norm_num) _ ?_⟩
  norm_num
  exact List.reverse_perm [239000, 240000, 241000]

/-! A rollup over the network -/

def InRange (low high : ℚ) (value : Value) : Prop :=
  ∀ x, asNumber value = some x → low ≤ x ∧ x ≤ high

/-- The topics of one quantity: whatever a task derives for one of them, it averages from others. -/
def RolledUp (tasks : List SyntheticTaskConfig) (quantity : String → Prop) : Prop :=
  ∀ cfg ∈ tasks, quantity cfg.outputTopic → Averages cfg.computation ∧
    ∀ topic ∈ cfg.computation.topics, quantity topic

namespace Network

/-- Only the site's tasks tick, and readings of the quantity are in the range. -/
def Ranged (tasks : List SyntheticTaskConfig) (quantity : String → Prop) (low high : ℚ)
    (_ : Network) (step : NetworkStep) : Prop :=
  match step with
  | .reading topic value _ => quantity topic → InRange low high value
  | .outside topic value _ => quantity topic → InRange low high value
  | .tick cfg _ => cfg ∈ tasks
  | _ => True

structure InRanges (quantity : String → Prop) (low high : ℚ) (s : Network) : Prop where
  sent : ∀ message ∈ s.flight, quantity message.topic → InRange low high message.value
  cached : ∀ topic entry, quantity topic → s.cache topic = some entry → InRange low high entry.1

section Steps

variable {tasks : List SyntheticTaskConfig} {quantity : String → Prop} {low high : ℚ} {s : Network}

/-- What was gathered came from entries of the cache. -/
theorem gathered_inputs {inputTopics : List String} {cache : InputCache}
    {staleLimits : StaleLimits} {now : Instant} {values : List ℚ}
    (gathered : gatherInputs inputTopics cache staleLimits now = some values) :
    ∀ x ∈ values, ∃ topic ∈ inputTopics, ∃ entry, cache topic = some entry ∧
      asNumber entry.1 = some x := by
  intro x member
  obtain ⟨topic, input, found⟩ := mapM_some_mem gathered member
  obtain ⟨entry, young, number⟩ := Option.bind_eq_some_iff.mp found
  exact ⟨topic, input, entry, (Option.filter_eq_some_iff.mp young).1, number⟩

theorem gathered_pairs {pairs : List (String × ℚ)} {cache : InputCache}
    {staleLimits : StaleLimits} {now : Instant} {resolved : List (ℚ × ℚ)}
    (gathered : gatherPairs pairs cache staleLimits now = some resolved) :
    ∀ x ∈ resolved, ∃ pair ∈ pairs, x.2 = pair.2 ∧ ∃ entry, cache pair.1 = some entry ∧
      asNumber entry.1 = some x.1 := by
  intro x member
  obtain ⟨pair, input, found⟩ := mapM_some_mem gathered member
  obtain ⟨entry, young, mapped⟩ := Option.bind_eq_some_iff.mp found
  obtain ⟨value, number, rfl⟩ := Option.map_eq_some_iff.mp mapped
  exact ⟨pair, input, rfl, entry, (Option.filter_eq_some_iff.mp young).1, number⟩

theorem InRanges.published (ranges : InRanges quantity low high s)
    (rolledUp : RolledUp tasks quantity) {cfg : SyntheticTaskConfig} (task : cfg ∈ tasks)
    (output : quantity cfg.outputTopic) {now : Instant} {value : ℚ}
    (published : tickOnce cfg s.cache now = .ok (some value)) : low ≤ value ∧ value ≤ high := by
  obtain ⟨averages, inputs⟩ := rolledUp cfg task output
  unfold tickOnce at published
  unfold Averages at averages
  unfold Computation.topics at inputs
  split at published
  · rename_i operation inputTopics computation
    rw [computation] at averages inputs
    split at published
    · simp at published
    · rename_i values gathered
      cases computed : apply operation values with
      | error message => simp [computed, Except.map] at published
      | ok found =>
          simp only [computed, Except.map, Except.ok.injEq, Option.some.injEq] at published
          subst published
          refine apply_between averages ?_ computed
          intro x member
          obtain ⟨topic, input, entry, cached, number⟩ := gathered_inputs gathered x member
          exact ranges.cached topic entry (inputs topic input) cached x number
  · rename_i pairs computation
    rw [computation] at averages inputs
    split at published
    · simp at published
    · rename_i resolved gathered
      cases computed : weightedMean resolved with
      | error message => simp [computed, Except.map] at published
      | ok found =>
          simp only [computed, Except.map, Except.ok.injEq, Option.some.injEq] at published
          subst published
          refine weightedMean_between ?_ ?_ computed
          · intro x member
            obtain ⟨pair, input, weight, _⟩ := gathered_pairs gathered x member
            rw [weight]
            exact averages pair input
          · intro x member
            obtain ⟨pair, input, _, entry, cached, number⟩ := gathered_pairs gathered x member
            exact ranges.cached pair.1 entry (inputs pair.1 (List.mem_map_of_mem input)) cached x.1
              number

theorem InRanges.send (ranges : InRanges quantity low high s) {now : Instant} {message : Message}
    (fresh : quantity message.topic → InRange low high message.value) :
    InRanges quantity low high (s.send now message) := by
  refine ⟨?_, ranges.cached⟩
  intro other member
  rcases List.mem_cons.mp member with rfl | earlier
  · exact fresh
  · exact ranges.sent other earlier

theorem InRanges.step (rolledUp : RolledUp tasks quantity) (ranges : InRanges quantity low high s)
    {input : NetworkStep} (ranged : s.Ranged tasks quantity low high input) :
    InRanges quantity low high (s.step input) := by
  cases input with
  | reading topic value now => exact ranges.send ranged
  | outside topic value now => exact ranges.send ranged
  | tick cfg now =>
      simp only [Network.step]
      split
      · rename_i value published
        apply ranges.send
        intro output x number
        obtain rfl := Option.some.inj number
        exact ranges.published rolledUp ranged output published
      · exact ⟨ranges.sent, ranges.cached⟩
  | deliver index now =>
      simp only [Network.step]
      split
      · rename_i message found
        refine ⟨fun other member => ranges.sent other (List.mem_of_mem_eraseIdx member), ?_⟩
        intro topic entry ofQuantity cached
        dsimp only at cached
        by_cases own : topic = message.topic
        · subst own
          rw [Function.update_self, Option.some.injEq] at cached
          rw [← cached]
          exact ranges.sent message (List.mem_of_getElem? found) ofQuantity
        · rw [Function.update_of_ne own] at cached
          exact ranges.cached topic entry ofQuantity cached
      · exact ⟨ranges.sent, ranges.cached⟩
  | lose index now =>
      exact ⟨fun other member => ranges.sent other (List.mem_of_mem_eraseIdx member), ranges.cached⟩

end Steps

/-- A quantity that is averaged all the way up stays in the range of its readings, in the cache of
every state that a site's network reaches. -/
theorem rollup_in_range {tasks : List SyntheticTaskConfig} {quantity : String → Prop}
    (rolledUp : RolledUp tasks quantity) {low high : ℚ} {steps : List NetworkStep}
    (ranged : Along Network.step (Ranged tasks quantity low high) initial steps) {topic : String}
    (ofQuantity : quantity topic) {x : ℚ}
    (cached : Envelope.reading (run Network.step initial steps).cache topic = some x) :
    low ≤ x ∧ x ≤ high := by
  have start : InRanges quantity low high initial := by
    refine ⟨?_, ?_⟩
    · intro message member
      exact absurd member List.not_mem_nil
    · rintro topic entry _ ⟨⟩
  have ranges := run_invariant (InRanges quantity low high)
    (fun _ _ before allowed => before.step rolledUp allowed) start ranged
  obtain ⟨entry, found, number⟩ := Option.bind_eq_some_iff.mp cached
  exact ranges.cached topic entry ofQuantity found x number

theorem rollup_in_range_chain :
    Envelope.reading (run Network.step initial chainSteps).cache "module" = some 50 ∧
      0 ≤ (50 : ℚ) ∧ (50 : ℚ) ≤ 100 := by
  have rolledUp : RolledUp chainTasks fun _ => True := by
    intro cfg task _
    rcases List.mem_cons.mp task with rfl | later
    · exact ⟨.inl rfl, fun _ _ => trivial⟩
    · obtain rfl := List.mem_singleton.mp later
      exact ⟨.inl rfl, fun _ _ => trivial⟩
  have ranged : Along Network.step (Ranged chainTasks (fun _ => True) 0 100) initial chainSteps := by
    refine ⟨?_, trivial, List.mem_cons_self, trivial, trivial⟩
    intro _ x number
    obtain rfl := Option.some.inj number
    norm_num
  have cached : Envelope.reading (run Network.step initial chainSteps).cache "module" = some 50 := by
    decide +kernel
  exact ⟨cached, rollup_in_range rolledUp ranged trivial cached⟩

end Network

end EmsGateway.Synthetic
