import EmsGateway.Envelope.Shed
import EmsGateway.Library.Rounding

/-!
The percentages a shed controller can come to hold. A proposal is put on the grid of 0.1 steps and
then raised to the floor of the fleet, which need not be on the grid; so what is held is on the
grid, or is that floor.
-/

namespace EmsGateway.Envelope

open EmsGateway.Library

def OnGrid (percent : ℚ) : Prop := ∃ n : ℤ, percent = n / 10

theorem quantize_onGrid (current target : ℚ) : OnGrid (quantize current target) :=
  ⟨_, rfl⟩

/-- Steps from `current` to the target, those of a cut rounded toward `current`. -/
def stepsTo (current target : ℚ) : ℤ := ⌈(target - current) / stepPercent⌉

theorem quantize_of_onGrid {current : ℚ} (grid : OnGrid current) (target : ℚ) :
    quantize current target = current + stepsTo current target / 10 := by
  obtain ⟨n, rfl⟩ := grid
  have whole : ((n : ℚ) / 10 + stepsTo (n / 10) target * stepPercent) * 10 =
      ((n + stepsTo (n / 10) target : ℤ) : ℚ) := by
    push_cast
    unfold stepPercent
    ring
  have rounded : quantize (n / 10) target = ((n + stepsTo (n / 10) target : ℤ) : ℚ) / 10 := by
    unfold quantize
    dsimp only
    rw [← stepsTo, whole, roundHalfAway_eq, roundHalfAway_intCast]
  rw [rounded]
  push_cast
  ring

theorem quantize_near (current target : ℚ) :
    |current + stepsTo current target / 10 - quantize current target| ≤ 1 / 20 := by
  have near := abs_sub_roundHalfAway ((current + stepsTo current target * stepPercent) * 10)
  have scaled : current + stepsTo current target / 10 - quantize current target =
      ((current + stepsTo current target * stepPercent) * 10 -
        Library.roundHalfAway ((current + stepsTo current target * stepPercent) * 10)) / 10 := by
    unfold quantize
    dsimp only
    rw [← stepsTo, roundHalfAway_eq]
    unfold stepPercent
    ring
  rw [scaled, abs_div, abs_of_pos (show (0 : ℚ) < 10 by norm_num)]
  linarith

theorem stepsTo_nonneg {current target : ℚ} (raise : current ≤ target) :
    0 ≤ stepsTo current target := by
  apply Int.ceil_nonneg
  unfold stepPercent
  linarith

theorem stepsTo_nonpos {current target : ℚ} (cut : target ≤ current) :
    stepsTo current target ≤ 0 := by
  apply Int.ceil_le.mpr
  unfold stepPercent
  push_cast
  linarith

theorem target_le_steps (current target : ℚ) :
    target ≤ current + stepsTo current target / 10 ∧
      current + stepsTo current target / 10 < target + 1 / 10 := by
  have above := Int.le_ceil ((target - current) / stepPercent)
  have below := Int.ceil_lt_add_one ((target - current) / stepPercent)
  rw [← stepsTo] at above below
  unfold stepPercent at above below
  constructor <;> linarith

/-- A fleet with watts, whose children's smallest caps are not above their largest. -/
structure Fleet where
  maxW : ℚ
  minW : ℚ
  powered : 0 < maxW
  ordered : minW ≤ maxW

namespace Fleet

def floor (fleet : Fleet) : ℚ := fleet.minW * (100 / fleet.maxW)

def Metered (fleet : Fleet) (t : ShedTick) : Prop :=
  t.fleetMaxW = fleet.maxW ∧ t.fleetMinW = fleet.minW ∧ t.requestedPercent = 100

instance (fleet : Fleet) (t : ShedTick) : Decidable (fleet.Metered t) :=
  inferInstanceAs (Decidable (_ ∧ _ ∧ _))

theorem floor_eq (fleet : Fleet) : fleet.floor = 100 * fleet.minW / fleet.maxW := by
  unfold floor
  ring

theorem floor_le (fleet : Fleet) : fleet.floor ≤ 100 := by
  rw [floor_eq, div_le_iff₀ fleet.powered]
  linarith [fleet.ordered]

/-- A percentage the fleet can be held at. -/
structure IsCap (fleet : Fleet) (percent : ℚ) : Prop where
  above : fleet.floor ≤ percent
  most : percent ≤ 100
  placed : OnGrid percent ∨ percent = fleet.floor

def settle (fleet : Fleet) (current target : ℚ) : ℚ :=
  max fleet.floor (min (quantize current target) 100)

theorem isCap_full (fleet : Fleet) : fleet.IsCap 100 :=
  ⟨fleet.floor_le, le_rfl, .inl ⟨1000, by norm_num⟩⟩

theorem isCap_settle (fleet : Fleet) (current target : ℚ) :
    fleet.IsCap (fleet.settle current target) := by
  refine ⟨le_max_left _ _, max_le fleet.floor_le (min_le_right _ _), ?_⟩
  unfold settle
  rcases max_choice fleet.floor (min (quantize current target) 100) with floor | grid
  · exact .inr floor
  · left
    rw [grid]
    rcases min_choice (quantize current target) 100 with own | full
    · rw [own]
      exact quantize_onGrid current target
    · rw [full]
      exact ⟨1000, by norm_num⟩

section Settle

variable {fleet : Fleet} {current target : ℚ} (cap : fleet.IsCap current)

include cap

/-- A raise never lowers the cap. -/
theorem IsCap.le_settle (raise : current ≤ target) : current ≤ fleet.settle current target := by
  rcases cap.placed with grid | floor
  · have up : current ≤ quantize current target := by
      rw [quantize_of_onGrid grid]
      have steps : (0 : ℚ) ≤ stepsTo current target := by exact_mod_cast stepsTo_nonneg raise
      linarith
    exact le_max_of_le_right (le_min up cap.most)
  · rw [floor]
    exact le_max_left _ _

/-- A cap that goes down was on the grid, and goes down by whole steps or to the floor. -/
theorem IsCap.settle_of_lt (lower : fleet.settle current target < current) :
    fleet.settle current target = max fleet.floor (current + stepsTo current target / 10) := by
  rcases cap.placed with grid | floor
  · unfold settle at lower ⊢
    rw [quantize_of_onGrid grid] at lower ⊢
    have cut : min (current + stepsTo current target / 10) 100 < current :=
      (le_max_right _ _).trans_lt lower
    rcases min_lt_iff.mp cut with below | full
    · rw [min_eq_left (below.le.trans cap.most)]
    · exact absurd full (not_lt.mpr cap.most)
  · rw [floor] at lower
    exact absurd lower (not_lt.mpr (le_max_left _ _))

end Settle

end Fleet

/-! What a tick reads off the meter. -/

def ShedTick.overLimit (t : ShedTick) : ℚ := t.poiActivePower - t.importLimit

def ShedTick.exported (t : ShedTick) : ℚ := -t.poiActivePower - t.exportLimit

def ShedTick.inPercent (t : ShedTick) (watts : ℚ) : ℚ := watts * (100 / t.fleetMaxW)

namespace ShedController

def headroom (c : ShedController) (t : ShedTick) : ℚ :=
  t.importLimit - t.poiActivePower - c.config.hysteresisMargin * t.fleetMaxW

def rampStep (c : ShedController) (t : ShedTick) : ℚ :=
  c.config.rampRatePerSec * 100 * Duration.asSecs t.dt

def storageSpent (c : ShedController) (t : ShedTick) : Prop :=
  t.storageSpareW < c.config.hysteresisMargin * t.fleetMaxW

/-- The branches of a tick that get as far as a target. -/
inductive SteersTo (c : ShedController) (t : ShedTick) : ℚ → Prop
  | exporting (past : 0 < t.exported) :
      SteersTo c t (c.current t + min (t.inPercent t.exported) (c.rampStep t))
  | cutting (within : t.exported ≤ 0) (beyond : 0 < t.overLimit)
      (unanswered : c.storageSpent t ∨ c.config.hysteresisDwell ≤ c.overFor + t.dt) :
      SteersTo c t (c.current t - min (t.inPercent t.overLimit) (c.rampStep t))
  | recovering (within : t.exported ≤ 0) (under : t.overLimit ≤ 0) (room : 0 < c.headroom t)
      (shed : c.current t < t.requestedPercent)
      (waited : c.config.hysteresisDwell ≤ c.clearFor + t.dt) :
      SteersTo c t (c.current t + min (t.inPercent (c.headroom t)) (c.rampStep t))
  | holding (within : t.exported ≤ 0) (under : t.overLimit ≤ 0)
      (settled : ¬(0 < c.headroom t ∧ c.current t < t.requestedPercent)) :
      SteersTo c t (c.current t)

theorem steersTo_of_target {c : ShedController} {t : ShedTick} {target : ℚ}
    (steered : (c.target t).2 = some target) : c.SteersTo t target := by
  unfold ShedController.target at steered
  dsimp only at steered
  split at steered
  · rename_i past
    rw [← Option.some.inj steered]
    exact .exporting past
  · rename_i within
    split at steered
    · rename_i beyond
      split at steered
      · simp at steered
      · rename_i unanswered
        rw [← Option.some.inj steered]
        refine .cutting (not_lt.mp within) beyond ?_
        by_contra neither
        rw [not_or, not_le] at neither
        exact unanswered (by simpa using ⟨not_lt.mp neither.1, neither.2⟩)
    · rename_i under
      split at steered
      · rename_i recovery
        split at steered
        · simp at steered
        · rename_i waited
          rw [← Option.some.inj steered]
          exact .recovering (not_lt.mp within) (not_lt.mp under) recovery.1 recovery.2
            (not_lt.mp waited)
      · rename_i settled
        rw [← Option.some.inj steered]
        exact .holding (not_lt.mp within) (not_lt.mp under) settled

theorem tick_proposed_iff {fleet : Fleet} {c : ShedController} {t : ShedTick}
    (metered : fleet.Metered t) {percent : ℚ} :
    (c.tick t).2 = some percent ↔ ∃ target, (c.target t).2 = some target ∧
      percent = fleet.settle (c.current t) target ∧ 1 / 20 ≤ |percent - c.current t| := by
  obtain ⟨maxIs, minIs, full⟩ := metered
  have sound : ¬(fleet.maxW = 0 ∨ 100 < fleet.floor) := by
    rintro (none | high)
    · exact fleet.powered.ne' none
    · exact absurd fleet.floor_le (not_le.mpr high)
  have far : stepPercent / 2 = 1 / 20 := by norm_num [stepPercent]
  unfold tick
  dsimp only
  rw [maxIs, minIs, full, ← Fleet.floor, far]
  cases found : c.target t with
  | mk next steered =>
      cases steered with
      | none => simp
      | some target =>
          simp only [if_neg sound, Option.ite_none_right_eq_some, Option.some.injEq,
            exists_eq_left']
          constructor
          · rintro ⟨moves, rfl⟩
            exact ⟨rfl, moves⟩
          · rintro ⟨rfl, moves⟩
            exact ⟨moves, rfl⟩

end ShedController

/-! Ticks, each with whether the write it asks for goes through. -/

structure ShedBeat where
  tick : ShedTick
  confirmed : Bool
  deriving DecidableEq, Repr

namespace ShedController

def beat (c : ShedController) (b : ShedBeat) : ShedController :=
  match c.tick b.tick with
  | (next, some percent) => if b.confirmed then next.confirm percent else next
  | (next, none) => next

theorem beat_cases (c : ShedController) (b : ShedBeat) :
    c.beat b = (c.target b.tick).1 ∨
      ∃ percent, (c.tick b.tick).2 = some percent ∧
        c.beat b = (c.target b.tick).1.confirm percent := by
  rw [← tick_fst]
  unfold beat
  cases c.tick b.tick with
  | mk next proposal =>
      cases proposal with
      | none => exact .inl rfl
      | some percent =>
          cases b.confirmed with
          | true => exact .inr ⟨percent, rfl, rfl⟩
          | false => exact .inl rfl

theorem target_config (c : ShedController) (t : ShedTick) :
    (c.target t).1.config = c.config := by
  unfold target reset
  dsimp only
  split_ifs <;> rfl

theorem beat_config (c : ShedController) (b : ShedBeat) : (c.beat b).config = c.config := by
  rcases c.beat_cases b with unconfirmed | ⟨percent, _, confirmed⟩
  · rw [unconfirmed, target_config]
  · rw [confirmed, confirm, target_config]

/-- The controller runs the fleet under `config`, and holds it at a cap of the fleet. -/
structure Runs (config : EnvelopeConfig) (fleet : Fleet) (c : ShedController) : Prop where
  config : c.config = config
  held : ∀ percent, c.percent = some percent → fleet.IsCap percent

variable {config : EnvelopeConfig} {fleet : Fleet} {c : ShedController} {t : ShedTick}

theorem runs_new (config : EnvelopeConfig) (fleet : Fleet) : (new config).Runs config fleet :=
  ⟨rfl, fun _ held => by simp [new] at held⟩

theorem Runs.beat (runs : c.Runs config fleet) {b : ShedBeat} (metered : fleet.Metered b.tick) :
    (c.beat b).Runs config fleet := by
  refine ⟨(c.beat_config b).trans runs.config, ?_⟩
  have kept := c.tick_percent b.tick
  rw [tick_fst] at kept
  intro percent held
  rcases c.beat_cases b with unconfirmed | ⟨proposal, proposed, confirmed⟩
  · rw [unconfirmed, kept] at held
    exact runs.held percent held
  · obtain ⟨target, _, same, _⟩ := (tick_proposed_iff metered).mp proposed
    rw [confirmed, confirm, Option.some.injEq] at held
    rw [← held, same]
    exact fleet.isCap_settle _ _

theorem runs_run (config : EnvelopeConfig) {beats : List ShedBeat}
    (metered : ∀ b ∈ beats, fleet.Metered b.tick) :
    (run beat (new config) beats).Runs config fleet :=
  run_invariant (Runs config fleet) (fun _ _ runs here => runs.beat here)
    (runs_new config fleet) (along_of_forall_mem _ metered)

theorem Runs.current (runs : c.Runs config fleet) (metered : fleet.Metered t) :
    fleet.IsCap (c.current t) := by
  unfold ShedController.current
  rw [metered.2.2]
  cases held : c.percent with
  | none =>
      rw [Option.getD_none, min_self]
      exact fleet.isCap_full
  | some percent =>
      have cap := runs.held percent held
      rw [Option.getD_some, min_eq_left cap.most]
      exact cap

theorem Runs.rampStep_eq (runs : c.Runs config fleet) (t : ShedTick) :
    c.rampStep t = 100 * config.rampRatePerSec * Duration.asSecs t.dt := by
  rw [rampStep, runs.config]
  ring

theorem inPercent_eq (metered : fleet.Metered t) (watts : ℚ) :
    t.inPercent watts = 100 * watts / fleet.maxW := by
  rw [ShedTick.inPercent, metered.1]
  ring

/-- A tick over the import limit never cuts more than the gap or the ramp allows, and leaves less
than a step of it unless it is at the floor. -/
theorem shed_cut_within_gap (config : EnvelopeConfig) (fleet : Fleet) {beats : List ShedBeat}
    (metered : ∀ b ∈ beats, fleet.Metered b.tick) (here : fleet.Metered t)
    (within : t.exported ≤ 0) (beyond : 0 < t.overLimit) {percent : ℚ}
    (proposed : ((run beat (new config) beats).tick t).2 = some percent)
    (lower : percent < (run beat (new config) beats).current t) :
    (run beat (new config) beats).current t - percent ≤
        min (100 * t.overLimit / fleet.maxW)
          (100 * config.rampRatePerSec * Duration.asSecs t.dt) ∧
      100 * fleet.minW / fleet.maxW ≤ percent ∧
      (percent ≠ 100 * fleet.minW / fleet.maxW →
        min (100 * t.overLimit / fleet.maxW)
            (100 * config.rampRatePerSec * Duration.asSecs t.dt) -
          ((run beat (new config) beats).current t - percent) < 1 / 10) := by
  have runs := runs_run config metered
  generalize run beat (new config) beats = c at *
  have cap := runs.current here
  obtain ⟨target, steered, rfl, _⟩ := (tick_proposed_iff here).mp proposed
  rw [cap.settle_of_lt lower, ← fleet.floor_eq]
  obtain ⟨reached, close⟩ := target_le_steps (c.current t) target
  have gap : target = c.current t - min (100 * t.overLimit / fleet.maxW)
      (100 * config.rampRatePerSec * Duration.asSecs t.dt) := by
    rw [← runs.rampStep_eq, ← inPercent_eq here]
    cases steersTo_of_target steered with
    | exporting past => exact absurd past (not_lt.mpr within)
    | cutting _ _ _ => rfl
    | recovering _ under _ _ _ => exact absurd beyond (not_lt.mpr under)
    | holding _ under _ => exact absurd beyond (not_lt.mpr under)
  refine ⟨?_, le_max_left _ _, ?_⟩
  · linarith [le_max_right fleet.floor (c.current t + stepsTo (c.current t) target / 10)]
  · intro notFloor
    rcases max_choice fleet.floor (c.current t + stepsTo (c.current t) target / 10) with
      floor | steps
    · exact absurd floor notFloor
    · rw [steps]
      linarith

/-! A hundred GPUs of 1000 W, none of which goes below 200 W. -/

def gpuConfig : EnvelopeConfig := ⟨1 / 10, 1 / 20, Duration.fromSecs 30⟩

def gpuFleet : Fleet := ⟨100000, 20000, by norm_num, by norm_num⟩

/-- A second at `watts` against limits of zero, with storage that could answer. -/
def importing (watts : ℚ) : ShedTick :=
  ⟨watts, 0, 0, 100, 100000, 20000, 1000000, Duration.fromSecs 1⟩

/-- 830 W are 0.83 percent of the fleet: after the dwell 0.8 are cut. -/
theorem shed_cut_within_gap_of_830_watts :
    ((run beat (new gpuConfig) (List.replicate 29 ⟨importing 830, true⟩)).tick
      (importing 830)).2 = some (992 / 10) ∧
    (100 - 992 / 10 : ℚ) ≤ min (100 * (importing 830).overLimit / gpuFleet.maxW)
      (100 * gpuConfig.rampRatePerSec * Duration.asSecs (importing 830).dt) ∧
    100 * gpuFleet.minW / gpuFleet.maxW ≤ 992 / 10 ∧
    min (100 * (importing 830).overLimit / gpuFleet.maxW)
      (100 * gpuConfig.rampRatePerSec * Duration.asSecs (importing 830).dt) -
        (100 - 992 / 10) < 1 / 10 := by
  have proposed : ((run beat (new gpuConfig) (List.replicate 29 ⟨importing 830, true⟩)).tick
      (importing 830)).2 = some (992 / 10) := by decide +kernel
  have current : (run beat (new gpuConfig) (List.replicate 29 ⟨importing 830, true⟩)).current
      (importing 830) = 100 := by decide +kernel
  have cut := shed_cut_within_gap gpuConfig gpuFleet (by decide +kernel) (by decide +kernel)
    (by decide +kernel) (by decide +kernel) proposed (by rw [current]; norm_num)
  rw [current] at cut
  exact ⟨proposed, cut.1, cut.2.1, cut.2.2 (by norm_num [gpuFleet])⟩

end ShedController

end EmsGateway.Envelope
