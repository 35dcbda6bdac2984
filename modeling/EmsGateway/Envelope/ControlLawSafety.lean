import EmsGateway.Envelope.PoiServo
import EmsGateway.Library.Runs

/-!
Two envelopes a controller run should stay inside: the module's own rating, and, on a site
without a POI meter, the limits themselves. Neither holds of every run. The rating is lost
when an export violation asks for a cut that reaches below `power_min`, because the floor gives
way to the ceiling after it was raised to the rating. A limit is lost when it tightens while the
reading still shows headroom and the controller is holding or ramping, because only `Normal` mode and
a measured violation clamp. Both theorems say when a run does keep its envelope.
-/

namespace EmsGateway.Envelope

open EmsGateway.Library

namespace EnvelopeController

def advance (c : EnvelopeController) (input : EnvelopeTick) : EnvelopeController :=
  (c.tick input).1

theorem rampsForward_of_rate {c : EnvelopeController} {input : EnvelopeTick}
    (rate : 0 ≤ c.config.rampRatePerSec) (rated : 0 ≤ input.powerMax) : c.RampsForward input :=
  ⟨mul_nonneg rate rated, mul_nonneg rate (abs_nonneg _)⟩

/-! The module's own rating. -/

structure Rated (powerMin powerMax : ℚ) (input : EnvelopeTick) : Prop where
  min_eq : input.powerMin = powerMin
  max_eq : input.powerMax = powerMax

def WithinRating (powerMin powerMax output : ℚ) : Prop :=
  powerMin ≤ output ∧ output ≤ powerMax

instance (powerMin powerMax output : ℚ) : Decidable (WithinRating powerMin powerMax output) :=
  inferInstanceAs (Decidable (_ ∧ _))

def integratedSecs (c : EnvelopeController) (input : EnvelopeTick) : ℚ :=
  if input.poiFresh = true ∧ c.jumpHold = 0 then Duration.asSecs input.dt else 0

/-- The export side leaves the output inside the rating: without a meter its limit does, and
with one its cut does, unless only the import limit tightens and lifts the ceiling. -/
def ExportCutFits (c : EnvelopeController) (input : EnvelopeTick) : Prop :=
  match input.poiActivePower with
  | none => ∀ exported ∈ input.exportLimit, input.powerMin ≤ exported
  | some poi =>
      (Limit.Tightens ⟨input.importLimit, c.prevLimits.1⟩ (-poi) ∧
        ¬Limit.Tightens ⟨input.exportLimit, c.prevLimits.2⟩ poi) ∨
      Limit.cut ⟨input.exportLimit, c.prevLimits.2⟩ poi (headroom (-poi) input.importLimit)
          (c.integratedSecs input) ≤ c.currentOutput - input.powerMin

def KeepsRating (c : EnvelopeController) (input : EnvelopeTick) : Prop :=
  0 ≤ c.config.rampRatePerSec ∧ c.ExportCutFits input

theorem le_servoBounds_ceiling {u poi low : ℚ} {importSide exportSide : Limit} {dt : Duration}
    (present : low ≤ u)
    (fits : (importSide.Tightens (-poi) ∧ ¬exportSide.Tightens poi) ∨
      exportSide.cut poi (headroom (-poi) importSide.now) (Duration.asSecs dt) ≤ u - low) :
    (low : WithTop ℚ) ≤ (servoBounds u poi importSide exportSide dt).ceiling := by
  rcases fits with ⟨lifted, unjumped⟩ | fits
  · -- the import jump alone: its floor is above the output and the ceiling gives way to it
    obtain ⟨down, stepped, nonpos⟩ :=
      step_nonpos_of_tightens (headroom poi exportSide.now) dt lifted
    have importJump := (jump_pos_iff (-poi) importSide.now importSide.prev).mpr lifted
    have exportJump := (jump_pos_iff poi exportSide.now exportSide.prev).not.mpr unjumped
    simp only [servoBounds, stepped, lowered_coe, importJump, exportJump, decide_true,
      decide_false, Bool.not_false, Bool.and_true]
    refine le_trans (WithTop.coe_le_coe.mpr ?_) (floor_le_uncross _ _)
    linarith
  · have stepped := neg_cut_le_step poi exportSide (headroom (-poi) importSide.now) dt
    simp only [servoBounds]
    refine le_trans ?_ (ceiling_le_uncross _ _ _)
    calc (low : WithTop ℚ)
        ≤ ((u + -exportSide.cut poi (headroom (-poi) importSide.now) (Duration.asSecs dt) : ℚ) :
            WithTop ℚ) := WithTop.coe_le_coe.mpr (by linarith)
      _ ≤ (u : WithTop ℚ) + step poi exportSide (headroom poi exportSide.now)
            (headroom (-poi) importSide.now) dt := by
          rw [WithTop.coe_add]
          exact add_le_add_right stepped _

theorem le_forTick_ceiling {u poi low : ℚ} {prevLimits : Option ℚ × Option ℚ} {t : EnvelopeTick}
    (reading : t.poiActivePower = some poi) (present : low ≤ u)
    (servo : (low : WithTop ℚ) ≤ (servoBounds u poi ⟨t.importLimit, prevLimits.1⟩
      ⟨t.exportLimit, prevLimits.2⟩ (if t.poiFresh then t.dt else 0)).ceiling) :
    (low : WithTop ℚ) ≤ (forTick u prevLimits t).ceiling := by
  simp only [forTick, reading]
  split
  · exact le_holdApproach_ceiling present servo
  · exact servo

theorem integratedSecs_of_skipped {c : EnvelopeController} {input : EnvelopeTick}
    (skipped : c.skipsReading input = true) : c.integratedSecs input = 0 := by
  simp only [skipsReading, Bool.and_eq_true, decide_eq_true_eq] at skipped
  simp [integratedSecs, skipped.1.ne']

theorem integratedSecs_of_read {c : EnvelopeController} {input : EnvelopeTick}
    (read : ¬c.skipsReading input = true) :
    c.integratedSecs input = Duration.asSecs (if input.poiFresh then input.dt else 0) := by
  simp only [skipsReading, Bool.and_eq_true, decide_eq_true_eq, not_and] at read
  unfold integratedSecs
  cases fresh : input.poiFresh with
  | false => simp
  | true =>
      have idle : c.jumpHold = 0 := by
        by_contra held
        exact read (Nat.pos_of_ne_zero held) fresh
      simp [idle]

theorem ExportCutFits.le_ceiling {c : EnvelopeController} {input : EnvelopeTick}
    (fits : c.ExportCutFits input) (present : input.powerMin ≤ c.currentOutput) :
    ((input.powerMin : ℚ) : WithTop ℚ) ≤ (c.tickBounds input).ceiling := by
  unfold ExportCutFits at fits
  unfold tickBounds
  cases reading : input.poiActivePower with
  | none =>
      have unmetered : ((input.powerMin : ℚ) : WithTop ℚ) ≤ limitCeiling input.exportLimit := by
        simp only [reading] at fits
        cases limited : input.exportLimit with
        | none => exact le_top
        | some exported => exact WithTop.coe_le_coe.mpr (fits exported limited)
      split <;> simpa [forTick, reading] using unmetered
  | some poi =>
      simp only [reading] at fits
      have servo : ∀ dt : Duration, Duration.asSecs dt = c.integratedSecs input →
          ((input.powerMin : ℚ) : WithTop ℚ) ≤
            (servoBounds c.currentOutput poi ⟨input.importLimit, c.prevLimits.1⟩
              ⟨input.exportLimit, c.prevLimits.2⟩ dt).ceiling := by
        intro dt seconds
        exact le_servoBounds_ceiling present (seconds ▸ fits)
      split
      · rename_i skipped
        refine le_forTick_ceiling rfl present (servo _ ?_)
        simp [integratedSecs_of_skipped skipped]
      · rename_i read
        exact le_forTick_ceiling reading present (servo _ (integratedSecs_of_read read).symm)

theorem floor_within_rating {c : EnvelopeController} {input : EnvelopeTick}
    (ordered : input.powerMin ≤ input.powerMax)
    (reaches : ((input.powerMin : ℚ) : WithTop ℚ) ≤ (c.tickBounds input).ceiling) :
    input.powerMin ≤ c.floor input := by
  refine le_min (le_raiseTo _ _) ?_
  exact (le_capAt_iff _ _ _).mpr ⟨reaches, ordered⟩

theorem advance_within_rating {c : EnvelopeController} {input : EnvelopeTick}
    {powerMin powerMax : ℚ} (belowZero : powerMin ≤ 0) (aboveZero : 0 ≤ powerMax)
    (rated : Rated powerMin powerMax input)
    (present : WithinRating powerMin powerMax c.currentOutput)
    (keeps : c.KeepsRating input) :
    WithinRating powerMin powerMax (c.advance input).currentOutput := by
  obtain ⟨rfl, rfl⟩ := rated
  have forward : c.RampsForward input := rampsForward_of_rate keeps.1 aboveZero
  constructor
  · exact le_tick_output forward present.1
      (floor_within_rating (belowZero.trans aboveZero) (keeps.2.le_ceiling present.1))
  · exact tick_output_le forward present.2 (c.ceiling_le_powerMax input)

/-- Over any run whose export cuts all fit above `power_min`, the output stays inside the
rating after every tick. -/
theorem rating_kept_along {c : EnvelopeController} {powerMin powerMax : ℚ}
    (belowZero : powerMin ≤ 0) (aboveZero : 0 ≤ powerMax) {ticks : List EnvelopeTick}
    (rated : ∀ input ∈ ticks, Rated powerMin powerMax input)
    (start : WithinRating powerMin powerMax c.currentOutput)
    (keeps : Along advance KeepsRating c ticks) :
    Along advance
      (fun state input => WithinRating powerMin powerMax (state.advance input).currentOutput)
      c ticks := by
  induction ticks generalizing c with
  | nil => trivial
  | cons input rest ih =>
      have next := advance_within_rating belowZero aboveZero (rated input (by simp)) start
        keeps.1
      exact ⟨next, ih (fun later member => rated later (by simp [member])) next keeps.2⟩

def plainConfig : EnvelopeConfig :=
  { rampRatePerSec := 1 / 10
    hysteresisMargin := 1 / 20
    hysteresisDwell := Duration.fromSecs 30 }

def exportOnset : EnvelopeTick :=
  { importLimit := none
    exportLimit := some 0
    activePower := 0
    requestedSetpoint := 0
    poiActivePower := some (-100)
    poiFresh := true
    holdApproach := false
    powerMin := -10
    powerMax := 10
    dt := Duration.fromSecs 1 }

theorem rating_lost_on_export_onset :
    WithinRating (-10) 10 (new plainConfig 0).currentOutput ∧
      Rated (-10) 10 exportOnset ∧
      ((new plainConfig 0).advance exportOnset).currentOutput = -100 ∧
      ¬Along advance
        (fun state input => WithinRating (-10) 10 (state.advance input).currentOutput)
        (new plainConfig 0) [exportOnset] := by
  refine ⟨by decide +kernel, ⟨rfl, rfl⟩, by decide +kernel, by decide +kernel⟩

theorem rating_kept_along_small_cut :
    Along advance
      (fun state input => WithinRating (-10) 10 (state.advance input).currentOutput)
      (new plainConfig 0) [{ exportOnset with poiActivePower := some (-3) }] := by
  apply rating_kept_along (by norm_num) (by norm_num)
  · intro input member
    obtain rfl := List.mem_singleton.mp member
    exact ⟨rfl, rfl⟩
  · decide +kernel
  · refine ⟨⟨by decide +kernel, Or.inr ?_⟩, trivial⟩
    decide +kernel

/-! The limits of a site without a POI meter. -/

structure NoMeter (input : EnvelopeTick) : Prop where
  poi_absent : input.poiActivePower = none
  import_nonneg : ∀ limit ∈ input.importLimit, 0 ≤ limit
  export_nonneg : ∀ limit ∈ input.exportLimit, 0 ≤ limit
  min_nonpos : input.powerMin ≤ 0
  max_nonneg : 0 ≤ input.powerMax

def WithinLimits (input : EnvelopeTick) (output : ℚ) : Prop :=
  (∀ limit ∈ input.exportLimit, output ≤ limit) ∧ ∀ limit ∈ input.importLimit, -limit ≤ output

instance (input : EnvelopeTick) (output : ℚ) : Decidable (WithinLimits input output) :=
  inferInstanceAs (Decidable (_ ∧ _))

def MeasuredViolation (input : EnvelopeTick) : Prop :=
  (∃ limit ∈ input.exportLimit, limit ≤ input.activePower) ∨
    ∃ limit ∈ input.importLimit, limit ≤ -input.activePower

def clampedRequest (input : EnvelopeTick) : ℚ :=
  clampTo input.requestedSetpoint (raiseTo (limitFloor input.importLimit) input.powerMin)
    (capAt (limitCeiling input.exportLimit) input.powerMax)

/-- The output is inside this tick's limits already, or the tick clamps it by a step it
writes. -/
def LimitsReached (c : EnvelopeController) (input : EnvelopeTick) : Prop :=
  0 ≤ c.config.rampRatePerSec ∧
    (WithinLimits input c.currentOutput ∨
      (c.mode = .normal ∨ MeasuredViolation input) ∧
        epsilon ≤ |clampedRequest input - c.currentOutput|)

theorem ceiling_noMeter {c : EnvelopeController} {input : EnvelopeTick}
    (absent : input.poiActivePower = none) :
    c.ceiling input = capAt (limitCeiling input.exportLimit) input.powerMax := by
  simp only [ceiling, tickBounds]
  split <;> simp [forTick, absent]

theorem floor_noMeter {c : EnvelopeController} {input : EnvelopeTick}
    (absent : input.poiActivePower = none) :
    c.floor input =
      min (raiseTo (limitFloor input.importLimit) input.powerMin) (c.ceiling input) := by
  simp only [floor, tickBounds]
  split <;> simp [forTick, absent]

theorem NoMeter.floor_le_ceiling {input : EnvelopeTick} (noMeter : NoMeter input) :
    raiseTo (limitFloor input.importLimit) input.powerMin ≤
      capAt (limitCeiling input.exportLimit) input.powerMax := by
  have belowZero : raiseTo (limitFloor input.importLimit) input.powerMin ≤ 0 := by
    refine (raiseTo_le_iff _ _ _).mpr ⟨?_, noMeter.min_nonpos⟩
    cases importCase : input.importLimit with
    | none => exact bot_le
    | some limit =>
        have limitNonneg := noMeter.import_nonneg limit importCase
        exact WithBot.coe_le_coe.mpr (by linarith)
  have aboveZero : 0 ≤ capAt (limitCeiling input.exportLimit) input.powerMax := by
    refine (le_capAt_iff _ _ _).mpr ⟨?_, noMeter.max_nonneg⟩
    cases exportCase : input.exportLimit with
    | none => exact le_top
    | some limit => exact WithTop.coe_le_coe.mpr (noMeter.export_nonneg limit exportCase)
  exact belowZero.trans aboveZero

theorem target_noMeter {c : EnvelopeController} {input : EnvelopeTick} (noMeter : NoMeter input) :
    c.target input = clampedRequest input := by
  rw [target, floor_noMeter noMeter.poi_absent, ceiling_noMeter noMeter.poi_absent,
    min_eq_left noMeter.floor_le_ceiling, clampedRequest]

theorem target_within_limits {c : EnvelopeController} {input : EnvelopeTick}
    (noMeter : NoMeter input) : WithinLimits input (c.target input) := by
  have inside : raiseTo (limitFloor input.importLimit) input.powerMin ≤ clampedRequest input ∧
      clampedRequest input ≤ capAt (limitCeiling input.exportLimit) input.powerMax :=
    clampTo_mem noMeter.floor_le_ceiling
  rw [target_noMeter noMeter]
  constructor
  · intro limit present
    refine inside.2.trans ?_
    rw [Option.mem_def.mp present]
    exact min_le_left _ _
  · intro limit present
    refine le_trans ?_ inside.1
    rw [Option.mem_def.mp present]
    exact le_max_left _ _

theorem within_limits_of_between {input : EnvelopeTick} {low middle high : ℚ}
    (lowInside : WithinLimits input low) (highInside : WithinLimits input high)
    (between : Between low middle high) : WithinLimits input middle := by
  constructor
  · intro limit present
    exact between.2.trans (max_le (lowInside.1 limit present) (highInside.1 limit present))
  · intro limit present
    exact (le_min (lowInside.2 limit present) (highInside.2 limit present)).trans between.1

theorem violated_of_measured {c : EnvelopeController} {input : EnvelopeTick}
    (absent : input.poiActivePower = none) (measured : MeasuredViolation input) :
    (c.tickBounds input).headroomExport ≤ 0 ∨ (c.tickBounds input).headroomImport ≤ 0 := by
  have exportRoom : (c.tickBounds input).headroomExport =
      headroom (-input.activePower) input.exportLimit := by
    simp only [tickBounds]
    split <;> simp [forTick, absent]
  have importRoom : (c.tickBounds input).headroomImport =
      headroom input.activePower input.importLimit := by
    simp only [tickBounds]
    split <;> simp [forTick, absent]
  rw [exportRoom, importRoom]
  rcases measured with ⟨limit, present, past⟩ | ⟨limit, present, past⟩
  · left
    rw [Option.mem_def.mp present, headroom_some]
    exact WithTop.coe_le_coe.mpr (by linarith)
  · right
    rw [Option.mem_def.mp present, headroom_some]
    exact WithTop.coe_le_coe.mpr (by linarith)

theorem advance_of_clamps {c : EnvelopeController} {input : EnvelopeTick}
    (noMeter : NoMeter input) (clamps : c.mode = .normal ∨ MeasuredViolation input)
    (change : epsilon ≤ |clampedRequest input - c.currentOutput|) :
    (c.advance input).currentOutput = c.target input := by
  rw [← target_noMeter (c := c) noMeter] at change
  unfold advance
  simp only [tick]
  split
  · exact write_output_of_change change
  · rename_i unviolated
    rcases clamps with normal | measured
    · simp only [normal]
      exact write_output_of_change change
    · exact absurd (violated_of_measured noMeter.poi_absent measured) unviolated

theorem advance_within_limits {c : EnvelopeController} {input : EnvelopeTick}
    (noMeter : NoMeter input) (reached : c.LimitsReached input) :
    WithinLimits input (c.advance input).currentOutput := by
  have target := target_within_limits (c := c) noMeter
  obtain ⟨rate, inside | ⟨clamps, change⟩⟩ := reached
  · exact within_limits_of_between inside target
      (tick_between (rampsForward_of_rate rate noMeter.max_nonneg))
  · rw [advance_of_clamps noMeter clamps change]
    exact target

/-- Over any run without a POI meter whose every tick finds the output inside its limits, or
clamps it, the output is inside the limits after every tick. -/
theorem limits_kept_along {c : EnvelopeController} {ticks : List EnvelopeTick}
    (noMeter : ∀ input ∈ ticks, NoMeter input) (reached : Along advance LimitsReached c ticks) :
    Along advance (fun state input => WithinLimits input (state.advance input).currentOutput)
      c ticks := by
  induction ticks generalizing c with
  | nil => trivial
  | cons input rest ih =>
      exact ⟨advance_within_limits (noMeter input (by simp)) reached.1,
        ih (fun later member => noMeter later (by simp [member])) reached.2⟩

def atExportLimit : EnvelopeTick :=
  { importLimit := none
    exportLimit := some 50
    activePower := 50
    requestedSetpoint := 100
    poiActivePower := none
    poiFresh := true
    holdApproach := false
    powerMin := -100
    powerMax := 100
    dt := Duration.fromSecs 1 }

def tightenedBehindReading : EnvelopeTick :=
  { atExportLimit with exportLimit := some 20, activePower := 10 }

theorem noMeter_atExportLimit : NoMeter atExportLimit := by
  constructor <;> simp [atExportLimit]

theorem noMeter_tightenedBehindReading : NoMeter tightenedBehindReading := by
  constructor <;> simp [tightenedBehindReading, atExportLimit]

theorem limits_lost_while_constrained :
    (∀ input ∈ [atExportLimit, tightenedBehindReading], NoMeter input) ∧
      ¬Along advance (fun state input => WithinLimits input (state.advance input).currentOutput)
        (new plainConfig 0) [atExportLimit, tightenedBehindReading] := by
  constructor
  · simp [noMeter_atExportLimit, noMeter_tightenedBehindReading]
  · decide +kernel

theorem limits_kept_along_onset :
    Along advance (fun state input => WithinLimits input (state.advance input).currentOutput)
      (new plainConfig 0) [atExportLimit, { atExportLimit with exportLimit := some 20 }] := by
  apply limits_kept_along
  · intro input member
    simp only [List.mem_cons, List.not_mem_nil, or_false] at member
    rcases member with rfl | rfl
    · exact noMeter_atExportLimit
    · constructor <;> simp [atExportLimit]
  · refine ⟨⟨by decide +kernel, Or.inl (by decide +kernel)⟩,
      ⟨by decide +kernel, Or.inr ⟨Or.inr (Or.inl ⟨20, rfl, ?_⟩), by decide +kernel⟩⟩, trivial⟩
    norm_num [atExportLimit]

end EnvelopeController

end EmsGateway.Envelope
