import EmsGateway.Library.Runs

/-!
A store behind an outlet that is told to close once the level is down at a floor. Closing may take
one step more, and even a closed outlet may leak a trickle. Whatever is drawn, the level then stays
within two of the largest draws of the floor, and what leaked.
-/

namespace EmsGateway.Library.Reservoir

inductive Outlet where
  | opened
  | closing
  | closed
  deriving DecidableEq, Repr

structure Store where
  level : ℚ
  outlet : Outlet
  /-- How long the store has been watched. -/
  elapsed : ℚ

structure Limits where
  floor : ℚ
  largest : ℚ
  longest : ℚ
  trickle : ℚ

/-- Above the floor the outlet does what it likes. At or below it, it is closed now, or it is closing
and was not told to close before. -/
structure Draws (limits : Limits) (before after : Store) (rate span : ℚ) : Prop where
  level : after.level = before.level - rate * span
  elapsed : after.elapsed = before.elapsed + span
  nonneg : 0 ≤ span
  short : span ≤ limits.longest
  bounded : rate ≤ limits.largest
  answers : before.level ≤ limits.floor →
    after.outlet = .closed ∧ rate ≤ limits.trickle ∨
      before.outlet = .opened ∧ after.outlet = .closing

def Limits.below (limits : Limits) (outlet : Outlet) : ℚ :=
  match outlet with
  | .opened => limits.largest * limits.longest
  | .closing | .closed => 2 * (limits.largest * limits.longest)

def Kept (limits : Limits) (store : Store) : Prop :=
  limits.floor - limits.below store.outlet - limits.trickle * store.elapsed ≤ store.level

section Steps

variable {limits : Limits} {before after : Store} {rate span : ℚ}

theorem Draws.largest_draw (draws : Draws limits before after rate span)
    (largest : 0 ≤ limits.largest) : rate * span ≤ limits.largest * limits.longest :=
  calc rate * span ≤ limits.largest * span := mul_le_mul_of_nonneg_right draws.bounded draws.nonneg
    _ ≤ limits.largest * limits.longest := mul_le_mul_of_nonneg_left draws.short largest

theorem Limits.below_le (largest : 0 ≤ limits.largest) (longest : 0 ≤ limits.longest)
    (outlet : Outlet) : limits.largest * limits.longest ≤ limits.below outlet ∧
      limits.below outlet ≤ 2 * (limits.largest * limits.longest) := by
  have product := mul_nonneg largest longest
  cases outlet with
  | opened => exact ⟨le_rfl, by simp only [below]; linarith⟩
  | closing => exact ⟨by simp only [below]; linarith, le_rfl⟩
  | closed => exact ⟨by simp only [below]; linarith, le_rfl⟩

theorem Kept.draw (kept : Kept limits before) (draws : Draws limits before after rate span)
    (largest : 0 ≤ limits.largest) (trickle : 0 ≤ limits.trickle) (watched : 0 ≤ before.elapsed) :
    Kept limits after := by
  have longest : 0 ≤ limits.longest := draws.nonneg.trans draws.short
  have draw := draws.largest_draw largest
  have leak : 0 ≤ limits.trickle * span := mul_nonneg trickle draws.nonneg
  have leaked : 0 ≤ limits.trickle * before.elapsed := mul_nonneg trickle watched
  have later : limits.trickle * after.elapsed =
      limits.trickle * before.elapsed + limits.trickle * span := by
    rw [draws.elapsed]
    ring
  unfold Kept at kept ⊢
  rw [draws.level, later]
  rcases le_or_gt before.level limits.floor with low | high
  · rcases draws.answers low with ⟨shut, slow⟩ | ⟨open_, closing⟩
    · have bound := (Limits.below_le largest longest before.outlet).2
      have seep : rate * span ≤ limits.trickle * span :=
        mul_le_mul_of_nonneg_right slow draws.nonneg
      simp only [shut, Limits.below]
      linarith
    · simp only [open_, Limits.below] at kept
      simp only [closing, Limits.below]
      linarith
  · have bound := (Limits.below_le largest longest after.outlet).1
    linarith

end Steps

/-- A system whose every admissible step looks like a draw keeps what a draw keeps. -/
theorem run_kept {σ ι : Type*} {step : σ → ι → σ} {admissible : σ → ι → Prop} {limits : Limits}
    (view : σ → Store) (invariant : σ → Prop) (largest : 0 ≤ limits.largest)
    (trickle : 0 ≤ limits.trickle)
    (preserved : ∀ state input, invariant state → admissible state input →
      invariant (step state input))
    (draws : ∀ state input, invariant state → admissible state input →
      ∃ rate span, Draws limits (view state) (view (step state input)) rate span)
    {state : σ} {inputs : List ι} (start : invariant state) (kept : Kept limits (view state))
    (watched : 0 ≤ (view state).elapsed) (holds : Along step admissible state inputs) :
    Kept limits (view (run step state inputs)) ∧ 0 ≤ (view (run step state inputs)).elapsed := by
  have both := run_invariant
    (fun s => invariant s ∧ Kept limits (view s) ∧ 0 ≤ (view s).elapsed) ?_
    ⟨start, kept, watched⟩ holds
  · exact both.2
  · rintro now input ⟨valid, keeps, since⟩ allowed
    obtain ⟨rate, span, drawn⟩ := draws now input valid allowed
    refine ⟨preserved now input valid allowed, keeps.draw drawn largest trickle since, ?_⟩
    rw [drawn.elapsed]
    exact add_nonneg since drawn.nonneg

theorem Kept.level_ge {limits : Limits} {store : Store} (kept : Kept limits store)
    (largest : 0 ≤ limits.largest) (longest : 0 ≤ limits.longest) :
    limits.floor - 2 * (limits.largest * limits.longest) - limits.trickle * store.elapsed ≤
      store.level := by
  have bound := (Limits.below_le largest longest store.outlet).2
  unfold Kept at kept
  linarith

end EmsGateway.Library.Reservoir
