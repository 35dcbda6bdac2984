import EmsGateway.Envelope.ShedGrid

/-!
Which way a shed controller moves. A floor off the grid is rounded again by the next tick; where it
lies halfway between two steps that alone is a move, upwards, large enough to be written. And a
ramp below zero turns every move around.
-/

namespace EmsGateway.Envelope

open EmsGateway.Library

def Halfway (percent : ℚ) : Prop := ∃ n : ℤ, percent * 10 = n + 1 / 2

theorem halfway_iff {percent : ℚ} : Int.fract (percent * 10) = 1 / 2 ↔ Halfway percent := by
  constructor
  · intro half
    exact ⟨⌊percent * 10⌋, by rw [← half, Int.floor_add_fract]⟩
  · rintro ⟨n, half⟩
    rw [half, Int.fract_intCast_add, Int.fract_eq_self]
    norm_num

instance (percent : ℚ) : Decidable (Halfway percent) := decidable_of_iff _ halfway_iff

namespace Fleet

variable {fleet : Fleet} {current target : ℚ}

/-- Short of a floor that is halfway between two steps, a cut does not raise the cap by as much as
would be written. -/
theorem IsCap.settle_sub_lt (cap : fleet.IsCap current) (whole : ¬Halfway fleet.floor)
    (cut : target ≤ current) : fleet.settle current target - current < 1 / 20 := by
  have steps : (stepsTo current target : ℚ) ≤ 0 := by exact_mod_cast stepsTo_nonpos cut
  rcases cap.placed with grid | floor
  · have down : quantize current target ≤ current := by
      rw [quantize_of_onGrid grid]
      linarith
    have below : fleet.settle current target ≤ current :=
      max_le cap.above ((min_le_left _ _).trans down)
    linarith
  · by_contra far
    rw [not_lt] at far
    have raised : current + 1 / 20 ≤ quantize current target := by
      unfold settle at far
      rcases max_choice fleet.floor (min (quantize current target) 100) with low | high
      · rw [low, ← floor] at far
        linarith
      · rw [high] at far
        linarith [min_le_left (quantize current target) 100]
    have near := abs_le.mp (quantize_near current target)
    obtain ⟨n, grid⟩ := quantize_onGrid current target
    refine whole ⟨n - 1, ?_⟩
    rw [← floor]
    push_cast
    linarith [near.1]

theorem settle_full_le (room : fleet.floor ≤ 100 - 1 / 20) (cut : target ≤ 100 - 1 / 10) :
    fleet.settle 100 target ≤ 100 - 1 / 20 := by
  have steps : (stepsTo 100 target : ℚ) ≤ -1 := by
    have whole : stepsTo 100 target ≤ -1 := by
      apply Int.ceil_le.mpr
      unfold stepPercent
      push_cast
      linarith
    exact_mod_cast whole
  have down : quantize 100 target ≤ 100 - 1 / 20 := by
    rw [quantize_of_onGrid ⟨1000, by norm_num⟩]
    linarith
  exact max_le room ((min_le_left _ _).trans down)

theorem floor_nonneg (nonneg : 0 ≤ fleet.minW) : 0 ≤ fleet.floor := by
  have powered := fleet.powered
  rw [floor_eq]
  positivity

/-- A floor halfway between two steps is rounded up, by as much as is written. -/
theorem settle_halfway (nonneg : 0 ≤ fleet.minW) (halfway : Halfway fleet.floor)
    (cut : target ≤ fleet.floor) (short : fleet.floor - 1 / 10 < target) :
    fleet.settle fleet.floor target = fleet.floor + 1 / 20 := by
  obtain ⟨n, half⟩ := halfway
  have steps : stepsTo fleet.floor target = 0 := by
    apply Int.ceil_eq_zero_iff.mpr
    unfold stepPercent
    constructor <;> linarith
  have up : roundHalfAway (n + 1 / 2) = n + 1 := by
    have positive : (0 : ℚ) ≤ n + 1 / 2 := by
      rw [← half]
      linarith [floor_nonneg nonneg]
    rw [roundHalfAway, if_pos positive, Int.floor_eq_iff]
    push_cast
    constructor <;> linarith
  have raised : quantize fleet.floor target = fleet.floor + 1 / 20 := by
    unfold quantize
    dsimp only
    rw [← stepsTo, steps, Int.cast_zero, zero_mul, add_zero, half, up]
    push_cast
    linarith
  have most : fleet.floor + 1 / 20 ≤ 100 := by
    have whole : n < 1000 := by
      have below : (n : ℚ) < 1000 := by linarith [fleet.floor_le]
      exact_mod_cast below
    have next : (n : ℚ) + 1 ≤ 1000 := by exact_mod_cast whole
    linarith
  rw [settle, raised, min_eq_left most, max_eq_right (by linarith)]

theorem settle_full (fleet : Fleet) : fleet.settle 100 100 = 100 := by
  have still : quantize 100 100 = 100 := by decide +kernel
  rw [settle, still, min_self, max_eq_right fleet.floor_le]

end Fleet

namespace ShedController

def Recovering (c : ShedController) (t : ShedTick) : Prop :=
  t.exported ≤ 0 ∧ t.overLimit ≤ 0 ∧ 0 < c.headroom t ∧ c.current t < t.requestedPercent

/-- A tick moves the cap the way the meter calls for, if at all. -/
structure MovesAsCalled (c : ShedController) (t : ShedTick) : Prop where
  cuts : t.exported ≤ 0 → 0 < t.overLimit →
    ∀ percent, (c.tick t).2 = some percent → percent ≤ c.current t
  raises : 0 < t.exported ∨ c.Recovering t →
    ∀ percent, (c.tick t).2 = some percent → c.current t ≤ percent
  rests : t.exported ≤ 0 → t.overLimit ≤ 0 → c.headroom t ≤ 0 → (c.tick t).2 = none

/-- The fleet has next to nothing to give, or the ramp never moves it, or the ramp runs forwards
and the floor is not halfway between two steps. -/
def KeepsDirection (config : EnvelopeConfig) (fleet : Fleet) : Prop :=
  100 - fleet.floor < 1 / 20 ∨ config.rampRatePerSec = 0 ∨
    0 < config.rampRatePerSec ∧ ¬Halfway fleet.floor

variable {config : EnvelopeConfig} {fleet : Fleet} {c : ShedController} {t : ShedTick}

theorem Runs.rampStep_nonneg (runs : c.Runs config fleet) (forward : 0 ≤ config.rampRatePerSec)
    (t : ShedTick) : 0 ≤ c.rampStep t := by
  rw [runs.rampStep_eq]
  have seconds := Duration.asSecs_nonneg t.dt
  positivity

theorem inPercent_nonneg (metered : fleet.Metered t) {watts : ℚ} (nonneg : 0 ≤ watts) :
    0 ≤ t.inPercent watts := by
  rw [inPercent_eq metered]
  have powered := fleet.powered
  positivity

/-- What a proposal says about its tick, where the ramp runs forwards and the floor is sound. -/
theorem Runs.proposed_cases (runs : c.Runs config fleet) (metered : fleet.Metered t)
    (forward : 0 ≤ config.rampRatePerSec) (whole : ¬Halfway fleet.floor) {percent : ℚ}
    (proposed : (c.tick t).2 = some percent) :
    (0 < t.exported ∧ c.current t < percent) ∨
    (t.exported ≤ 0 ∧ 0 < t.overLimit ∧
      (c.storageSpent t ∨ c.config.hysteresisDwell ≤ c.overFor + t.dt) ∧
      percent < c.current t) ∨
    (c.Recovering t ∧ c.config.hysteresisDwell ≤ c.clearFor + t.dt ∧ c.current t < percent) := by
  have cap := runs.current metered
  have ramp := runs.rampStep_nonneg forward t
  obtain ⟨target, steered, rfl, far⟩ := (tick_proposed_iff metered).mp proposed
  have raised : c.current t ≤ target → c.current t < fleet.settle (c.current t) target := by
    intro raise
    have up := cap.le_settle raise
    rw [abs_of_nonneg (sub_nonneg.mpr up)] at far
    linarith
  have lowered : target ≤ c.current t → fleet.settle (c.current t) target < c.current t := by
    intro cut
    have short := cap.settle_sub_lt whole cut
    rcases le_abs.mp far with up | down
    · linarith
    · linarith
  cases steersTo_of_target steered with
  | exporting past =>
      have room := inPercent_nonneg metered past.le
      exact .inl ⟨past, raised (le_add_of_nonneg_right (le_min room ramp))⟩
  | cutting within beyond unanswered =>
      have gap := inPercent_nonneg metered beyond.le
      exact .inr (.inl ⟨within, beyond, unanswered,
        lowered (sub_le_self _ (le_min gap ramp))⟩)
  | recovering within under room shed waited =>
      have headroom := inPercent_nonneg metered room.le
      exact .inr (.inr ⟨⟨within, under, room, shed⟩, waited,
        raised (le_add_of_nonneg_right (le_min headroom ramp))⟩)
  | holding _ _ _ => exact absurd (raised le_rfl) (lowered le_rfl).not_gt

theorem Runs.moves_forward (runs : c.Runs config fleet) (metered : fleet.Metered t)
    (forward : 0 ≤ config.rampRatePerSec) (whole : ¬Halfway fleet.floor) :
    c.MovesAsCalled t := by
  refine ⟨?_, ?_, ?_⟩
  · intro within beyond percent proposed
    rcases runs.proposed_cases metered forward whole proposed with
      ⟨past, _⟩ | ⟨_, _, _, lower⟩ | ⟨⟨_, under, _⟩, _⟩
    · exact absurd past (not_lt.mpr within)
    · exact lower.le
    · exact absurd beyond (not_lt.mpr under)
  · intro called percent proposed
    rcases runs.proposed_cases metered forward whole proposed with
      ⟨_, higher⟩ | ⟨within, beyond, _⟩ | ⟨_, _, higher⟩
    · exact higher.le
    · rcases called with past | ⟨_, under, _⟩
      · exact absurd past (not_lt.mpr within)
      · exact absurd beyond (not_lt.mpr under)
    · exact higher.le
  · intro within under full
    rw [Option.eq_none_iff_forall_ne_some]
    intro percent proposed
    rcases runs.proposed_cases metered forward whole proposed with
      ⟨past, _⟩ | ⟨_, beyond, _⟩ | ⟨⟨_, _, room, _⟩, _⟩
    · exact absurd past (not_lt.mpr within)
    · exact absurd beyond (not_lt.mpr under)
    · exact absurd room (not_lt.mpr full)

/-! A controller that has nothing to move never writes, and stays where it was made. -/

structure Unmoved (config : EnvelopeConfig) (c : ShedController) : Prop where
  config : c.config = config
  unwritten : c.percent = none

theorem unmoved_new (config : EnvelopeConfig) : (new config).Unmoved config := ⟨rfl, rfl⟩

theorem Unmoved.current (unmoved : c.Unmoved config) (metered : fleet.Metered t) :
    c.current t = 100 := by
  rw [ShedController.current, unmoved.unwritten, metered.2.2, Option.getD_none, min_self]

theorem Unmoved.rests (unmoved : c.Unmoved config) (metered : fleet.Metered t)
    (idle : 100 - fleet.floor < 1 / 20 ∨ config.rampRatePerSec = 0) : (c.tick t).2 = none := by
  have current := unmoved.current metered
  rw [Option.eq_none_iff_forall_ne_some]
  intro percent proposed
  obtain ⟨target, steered, rfl, far⟩ := (tick_proposed_iff metered).mp proposed
  rw [current] at far
  have cap := fleet.isCap_settle 100 target
  rw [abs_sub_comm, abs_of_nonneg (sub_nonneg.mpr cap.most)] at far
  rcases idle with narrow | still
  · linarith [cap.above]
  · have none : c.rampStep t = 0 := by
      rw [rampStep, unmoved.config, still, zero_mul, zero_mul]
    have same : target = 100 := by
      rw [← current]
      cases steersTo_of_target steered with
      | exporting past =>
          rw [none, min_eq_right (inPercent_nonneg metered past.le), add_zero]
      | cutting _ beyond _ =>
          rw [none, min_eq_right (inPercent_nonneg metered beyond.le), sub_zero]
      | recovering _ _ room _ _ =>
          rw [none, min_eq_right (inPercent_nonneg metered room.le), add_zero]
      | holding _ _ _ => rfl
    rw [same, fleet.settle_full] at far
    norm_num at far

theorem Unmoved.beat (unmoved : c.Unmoved config) {b : ShedBeat} (metered : fleet.Metered b.tick)
    (idle : 100 - fleet.floor < 1 / 20 ∨ config.rampRatePerSec = 0) :
    (c.beat b).Unmoved config := by
  have kept := c.tick_percent b.tick
  rw [tick_fst] at kept
  rcases c.beat_cases b with unconfirmed | ⟨percent, proposed, _⟩
  · rw [unconfirmed]
    exact ⟨(c.target_config b.tick).trans unmoved.config, kept.trans unmoved.unwritten⟩
  · rw [unmoved.rests metered idle] at proposed
    exact absurd proposed (Option.some_ne_none percent).symm

theorem movesAsCalled_of_none (none : (c.tick t).2 = none) : c.MovesAsCalled t := by
  refine ⟨?_, ?_, fun _ _ _ => none⟩
  · intro _ _ percent proposed
    rw [none] at proposed
    exact absurd proposed (Option.some_ne_none percent).symm
  · intro _ percent proposed
    rw [none] at proposed
    exact absurd proposed (Option.some_ne_none percent).symm

theorem moves_of_keepsDirection (keeps : KeepsDirection config fleet) {beats : List ShedBeat}
    (metered : ∀ b ∈ beats, fleet.Metered b.tick) :
    Along beat (fun c b => c.MovesAsCalled b.tick) (new config) beats := by
  have along : Along beat (fun _ b => fleet.Metered b.tick) (new config) beats :=
    along_of_forall_mem _ metered
  rcases or_assoc.mpr keeps with idle | ⟨forward, whole⟩
  · exact Along.of_invariant (Unmoved config)
      (fun _ _ unmoved here => unmoved.beat here idle)
      (fun _ _ unmoved here => movesAsCalled_of_none (unmoved.rests here idle))
      (unmoved_new config) along
  · exact Along.of_invariant (Runs config fleet)
      (fun _ _ runs here => runs.beat here)
      (fun _ _ runs here => runs.moves_forward here forward.le whole)
      (runs_new config fleet) along

/-! Runs that go the wrong way where the condition fails. -/

theorem target_of_exporting (past : 0 < t.exported) :
    (c.target t).2 = some (c.current t + min (t.inPercent t.exported) (c.rampStep t)) := by
  unfold target
  dsimp only
  rw [← ShedTick.exported, if_pos past]
  rfl

theorem target_of_spent (within : t.exported ≤ 0) (beyond : 0 < t.overLimit)
    (spent : c.storageSpent t) :
    (c.target t).2 = some (c.current t - min (t.inPercent t.overLimit) (c.rampStep t)) := by
  unfold storageSpent at spent
  unfold target
  dsimp only
  rw [← ShedTick.exported, ← ShedTick.overLimit, if_neg (not_lt.mpr within), if_pos beyond]
  simp only [spent, decide_true, Bool.not_true, Bool.false_and, Bool.false_eq_true, if_false]
  rfl

theorem tick_proposes (metered : fleet.Metered t) {target : ℚ}
    (steered : (c.target t).2 = some target)
    (far : 1 / 20 ≤ |fleet.settle (c.current t) target - c.current t|) :
    (c.tick t).2 = some (fleet.settle (c.current t) target) :=
  (tick_proposed_iff metered).mpr ⟨target, steered, rfl, far⟩

/-- An export that is answered by a step down. -/
theorem wrong_way_exporting (metered : fleet.Metered t) (full : c.current t = 100)
    (room : fleet.floor ≤ 100 - 1 / 20) (past : 0 < t.exported)
    (backward : c.rampStep t ≤ -(1 / 10)) : ¬c.MovesAsCalled t := by
  intro called
  have steered := @target_of_exporting c t past
  have down : c.current t + min (t.inPercent t.exported) (c.rampStep t) ≤ 100 - 1 / 10 := by
    linarith [min_le_right (t.inPercent t.exported) (c.rampStep t)]
  have lower := fleet.settle_full_le room down
  rw [← full] at lower
  have proposed := tick_proposes metered steered (by rw [abs_sub_comm, le_abs]; left; linarith)
  linarith [called.raises (.inl past) _ proposed]

/-- At a floor halfway between two steps, a gap of less than a step is answered by a raise. -/
theorem wrong_way_halfway (metered : fleet.Metered t) (low : c.current t = fleet.floor)
    (nonneg : 0 ≤ fleet.minW) (halfway : Halfway fleet.floor) (within : t.exported ≤ 0)
    (beyond : 0 < t.overLimit) (spent : c.storageSpent t) (forward : 0 ≤ c.rampStep t)
    (small : t.inPercent t.overLimit < 1 / 10) : ¬c.MovesAsCalled t := by
  intro called
  have steered := target_of_spent within beyond spent
  have gap := le_min (inPercent_nonneg metered beyond.le) forward
  have short := min_le_left (t.inPercent t.overLimit) (c.rampStep t)
  have raised := @Fleet.settle_halfway fleet
    (c.current t - min (t.inPercent t.overLimit) (c.rampStep t)) nonneg halfway (by linarith)
    (by linarith)
  rw [← low] at raised
  have proposed := tick_proposes metered steered (by rw [raised, le_abs]; left; linarith)
  linarith [called.cuts within beyond _ proposed]

/-- A gap as large as the fleet takes it to the floor at once, where the ramp allows it. -/
theorem falls_to_floor (metered : fleet.Metered t) (full : c.current t = 100)
    (nonneg : 0 ≤ fleet.minW) (room : fleet.floor ≤ 100 - 1 / 20) (within : t.exported ≤ 0)
    (beyond : 0 < t.overLimit) (spent : c.storageSpent t) (whole : t.inPercent t.overLimit = 100)
    (fast : 100 ≤ c.rampStep t) : (c.tick t).2 = some fleet.floor := by
  have steered := target_of_spent within beyond spent
  have bottom : fleet.settle 100 0 = fleet.floor := by
    have none : quantize 100 0 = 0 := by decide +kernel
    rw [Fleet.settle, none, min_eq_left (by norm_num), max_eq_left (Fleet.floor_nonneg nonneg)]
  rw [whole, min_eq_left fast, full, sub_self] at steered
  have proposed := tick_proposes metered steered
    (by rw [full, bottom, abs_sub_comm, le_abs]; left; linarith)
  rwa [full, bottom] at proposed

/-- A tick of the fleet with limits of zero and storage that cannot answer. -/
def spentTick (config : EnvelopeConfig) (fleet : Fleet) (poi : ℚ) (seconds : ℕ) : ShedTick :=
  { poiActivePower := poi
    importLimit := 0
    exportLimit := 0
    requestedPercent := 100
    fleetMaxW := fleet.maxW
    fleetMinW := fleet.minW
    storageSpareW := config.hysteresisMargin * fleet.maxW - 1
    dt := Duration.fromSecs seconds }

section SpentTick

variable (config fleet) (poi : ℚ) (seconds : ℕ)

theorem metered_spentTick : fleet.Metered (spentTick config fleet poi seconds) :=
  ⟨rfl, rfl, rfl⟩

theorem exported_spentTick : (spentTick config fleet poi seconds).exported = -poi := by
  simp [spentTick, ShedTick.exported]

theorem overLimit_spentTick : (spentTick config fleet poi seconds).overLimit = poi := by
  simp [spentTick, ShedTick.overLimit]

theorem rampStep_spentTick {c : ShedController} (known : c.config = config) :
    c.rampStep (spentTick config fleet poi seconds) = config.rampRatePerSec * 100 * seconds := by
  rw [rampStep, known]
  exact congrArg _ (Duration.asSecs_fromSecs seconds)

theorem storageSpent_spentTick {c : ShedController} (known : c.config = config) :
    c.storageSpent (spentTick config fleet poi seconds) := by
  rw [storageSpent, known]
  simp [spentTick]

end SpentTick

theorem wrong_way_of_backward (backward : config.rampRatePerSec < 0)
    (room : fleet.floor ≤ 100 - 1 / 20) :
    ∃ b : ShedBeat, fleet.Metered b.tick ∧ ¬(new config).MovesAsCalled b.tick := by
  obtain ⟨seconds, long⟩ := exists_nat_gt (1 / (1000 * -config.rampRatePerSec))
  rw [div_lt_iff₀ (by linarith)] at long
  have metered := metered_spentTick config fleet (-1) seconds
  refine ⟨⟨spentTick config fleet (-1) seconds, false⟩, metered, ?_⟩
  apply wrong_way_exporting metered ((unmoved_new config).current metered) room
  · rw [exported_spentTick]
    norm_num
  · rw [rampStep_spentTick config fleet _ _ rfl]
    linarith

theorem beat_confirmed {b : ShedBeat} (written : b.confirmed = true) {percent : ℚ}
    (proposed : (c.tick b.tick).2 = some percent) : (c.beat b).percent = some percent := by
  unfold beat
  cases ticked : c.tick b.tick with
  | mk next proposal =>
      rw [ticked] at proposed
      obtain rfl : proposal = some percent := proposed
      simp [written, confirm]

/-- A first tick with a gap as large as the fleet, long enough for the ramp, leaves the floor
held. -/
theorem floor_held (nonneg : 0 ≤ fleet.minW) (room : fleet.floor ≤ 100 - 1 / 20) {seconds : ℕ}
    (long : 1 < seconds * config.rampRatePerSec) :
    ((new config).beat ⟨spentTick config fleet fleet.maxW seconds, true⟩).percent =
      some fleet.floor := by
  have powered := fleet.powered
  have metered := metered_spentTick config fleet fleet.maxW seconds
  apply beat_confirmed rfl
  apply falls_to_floor metered ((unmoved_new config).current metered) nonneg room
  · rw [exported_spentTick]
    linarith
  · rw [overLimit_spentTick]
    exact powered
  · exact storageSpent_spentTick config fleet _ _ rfl
  · rw [inPercent_eq metered, overLimit_spentTick]
    field_simp
  · rw [rampStep_spentTick config fleet _ _ rfl]
    linarith

theorem wrong_way_of_halfway (forward : 0 < config.rampRatePerSec) (nonneg : 0 ≤ fleet.minW)
    (room : fleet.floor ≤ 100 - 1 / 20) (halfway : Halfway fleet.floor) :
    ∃ first second : ShedBeat, fleet.Metered first.tick ∧ fleet.Metered second.tick ∧
      ¬((new config).beat first).MovesAsCalled second.tick := by
  obtain ⟨seconds, long⟩ := exists_nat_gt (1 / config.rampRatePerSec)
  rw [div_lt_iff₀ forward] at long
  have powered := fleet.powered
  have held := @floor_held config fleet nonneg room seconds long
  have known := beat_config (new config) ⟨spentTick config fleet fleet.maxW seconds, true⟩
  have metered := metered_spentTick config fleet (fleet.maxW / 10000) seconds
  refine ⟨⟨spentTick config fleet fleet.maxW seconds, true⟩,
    ⟨spentTick config fleet (fleet.maxW / 10000) seconds, false⟩,
    metered_spentTick config fleet fleet.maxW seconds, metered, ?_⟩
  apply wrong_way_halfway metered ?_ nonneg halfway
  · rw [exported_spentTick]
    linarith
  · rw [overLimit_spentTick]
    linarith
  · exact storageSpent_spentTick config fleet _ _ known
  · rw [rampStep_spentTick config fleet _ _ known]
    positivity
  · rw [inPercent_eq metered, overLimit_spentTick]
    field_simp
    norm_num
  · rw [ShedController.current, held, metered.2.2, Option.getD_some, min_eq_left fleet.floor_le]

/-- Every run moves the cap the way the meter calls for exactly under the condition. -/
theorem shed_moves_as_called_iff (config : EnvelopeConfig) (fleet : Fleet)
    (nonneg : 0 ≤ fleet.minW) :
    (∀ beats : List ShedBeat, (∀ b ∈ beats, fleet.Metered b.tick) →
      Along beat (fun c b => c.MovesAsCalled b.tick) (new config) beats) ↔
      KeepsDirection config fleet := by
  constructor
  · intro always
    by_contra broken
    simp only [KeepsDirection, not_or, not_lt, not_and, not_not] at broken
    obtain ⟨wide, moving, halfway⟩ := broken
    have room : fleet.floor ≤ 100 - 1 / 20 := by linarith
    rcases lt_or_gt_of_ne moving with backward | forward
    · obtain ⟨b, metered, wrong⟩ := wrong_way_of_backward backward room
      have along := always [b] (by simpa using metered)
      exact wrong along.1
    · obtain ⟨first, second, metered, meteredSecond, wrong⟩ :=
        wrong_way_of_halfway forward nonneg room (halfway forward)
      have along := always [first, second] (by simp [metered, meteredSecond])
      exact wrong along.2.1
  · intro keeps beats metered
    exact moves_of_keepsDirection keeps metered

instance (config : EnvelopeConfig) (fleet : Fleet) : Decidable (KeepsDirection config fleet) :=
  inferInstanceAs (Decidable (_ ∨ _ ∨ _))

theorem shed_moves_as_called_gpus :
    KeepsDirection gpuConfig gpuFleet ∧
      Along beat (fun c b => c.MovesAsCalled b.tick) (new gpuConfig)
        (List.replicate 31 ⟨importing 830, true⟩) :=
  ⟨by decide +kernel, (shed_moves_as_called_iff gpuConfig gpuFleet (by norm_num [gpuFleet])).mpr
    (by decide +kernel) _ (by decide +kernel)⟩

/-! A fleet of 400 W that keeps 101 W: its floor is 25.25 percent. -/

def oddFleet : Fleet := ⟨400, 101, by norm_num, by norm_num⟩

/-- The fleet is shed to its floor in one tick of ten seconds; the next one finds the meter right
at the limit, and asks for 25.3 percent. -/
theorem shed_floor_raised_inside_envelope :
    ¬∀ (config : EnvelopeConfig) (fleet : Fleet), 0 ≤ fleet.minW →
      ∀ beats : List ShedBeat, (∀ b ∈ beats, fleet.Metered b.tick) →
        Along beat (fun c b => c.MovesAsCalled b.tick) (new config) beats := by
  intro always
  have along := always gpuConfig oddFleet (by norm_num [oddFleet])
    [⟨spentTick gpuConfig oddFleet 400 10, true⟩, ⟨spentTick gpuConfig oddFleet 0 1, true⟩]
    (by decide +kernel)
  have rests := along.2.1.rests (by decide +kernel) (by decide +kernel) (by decide +kernel)
  have asked : (((new gpuConfig).beat ⟨spentTick gpuConfig oddFleet 400 10, true⟩).tick
      (spentTick gpuConfig oddFleet 0 1)).2 = some (253 / 10) := by decide +kernel
  rw [asked] at rests
  exact absurd rests (Option.some_ne_none _)

end ShedController

end EmsGateway.Envelope
