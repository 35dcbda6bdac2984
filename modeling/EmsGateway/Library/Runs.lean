import Mathlib

/-!
Runs of a deterministic transition function over a list of inputs. `Along` says that a
condition on (state, input) holds at every step a run takes, `Lockstep` that two runs take
matching steps; the rules below turn what one step preserves into what a whole run preserves.
-/

namespace EmsGateway.Library

variable {σ ι : Type*}

def run (step : σ → ι → σ) (state : σ) (inputs : List ι) : σ :=
  inputs.foldl step state

@[simp] theorem run_nil (step : σ → ι → σ) (state : σ) : run step state [] = state := rfl

@[simp] theorem run_cons (step : σ → ι → σ) (state : σ) (input : ι) (rest : List ι) :
    run step state (input :: rest) = run step (step state input) rest := rfl

theorem run_append (step : σ → ι → σ) (state : σ) (first second : List ι) :
    run step state (first ++ second) = run step (run step state first) second :=
  List.foldl_append

/-- The condition holds of the state before, and the input of, every step of the run. -/
def Along (step : σ → ι → σ) (condition : σ → ι → Prop) : σ → List ι → Prop
  | _, [] => True
  | state, input :: rest => condition state input ∧ Along step condition (step state input) rest

theorem along_of_forall {step : σ → ι → σ} {condition : σ → ι → Prop}
    (holds : ∀ state input, condition state input) (state : σ) (inputs : List ι) :
    Along step condition state inputs := by
  induction inputs generalizing state with
  | nil => trivial
  | cons input rest ih => exact ⟨holds state input, ih (step state input)⟩

theorem along_of_forall_mem {step : σ → ι → σ} {condition : ι → Prop} (state : σ)
    {inputs : List ι} (holds : ∀ input ∈ inputs, condition input) :
    Along step (fun _ input => condition input) state inputs := by
  induction inputs generalizing state with
  | nil => trivial
  | cons input rest ih =>
      refine ⟨holds input List.mem_cons_self, ih (step state input) ?_⟩
      intro later member
      exact holds later (List.mem_cons_of_mem _ member)

instance Along.decidable (step : σ → ι → σ) (condition : σ → ι → Prop)
    [∀ state input, Decidable (condition state input)] :
    ∀ state inputs, Decidable (Along step condition state inputs)
  | _, [] => .isTrue trivial
  | state, input :: rest =>
      match (inferInstance : Decidable (condition state input)),
        Along.decidable step condition (step state input) rest with
      | .isTrue holds, .isTrue later => .isTrue ⟨holds, later⟩
      | .isFalse fails, _ => .isFalse fun both => fails both.1
      | _, .isFalse fails => .isFalse fun both => fails both.2

/-- An invariant that every admissible step preserves turns one condition along a run into
another one: at each step the invariant holds before it, and so does the weaker condition. -/
theorem Along.of_invariant {step : σ → ι → σ} {before after : σ → ι → Prop}
    (invariant : σ → Prop)
    (preserved : ∀ state input, invariant state → before state input →
      invariant (step state input))
    (establishes : ∀ state input, invariant state → before state input → after state input)
    {state : σ} {inputs : List ι} (start : invariant state)
    (holds : Along step before state inputs) : Along step after state inputs := by
  induction inputs generalizing state with
  | nil => trivial
  | cons input rest ih =>
      exact ⟨establishes state input start holds.1,
        ih (preserved state input start holds.1) holds.2⟩

theorem Along.imp {step : σ → ι → σ} {before after : σ → ι → Prop}
    (implies : ∀ state input, before state input → after state input) {state : σ}
    {inputs : List ι} (holds : Along step before state inputs) : Along step after state inputs :=
  Along.of_invariant (fun _ => True) (fun _ _ _ _ => trivial)
    (fun state input _ => implies state input) trivial holds

theorem run_invariant {step : σ → ι → σ} {before : σ → ι → Prop} (invariant : σ → Prop)
    (preserved : ∀ state input, invariant state → before state input →
      invariant (step state input))
    {state : σ} {inputs : List ι} (start : invariant state)
    (holds : Along step before state inputs) : invariant (run step state inputs) := by
  induction inputs generalizing state with
  | nil => exact start
  | cons input rest ih => exact ih (preserved state input start holds.1) holds.2

/-- Where, under an invariant, a step establishes a property exactly when its condition holds and
the condition keeps the invariant, the property holds after each step of a run if and only if the
condition holds at each. -/
theorem along_iff_of_invariant {step : σ → ι → σ} {condition : σ → ι → Prop} {property : σ → Prop}
    (invariant : σ → Prop)
    (kept : ∀ state input, invariant state →
      (property (step state input) ↔ condition state input))
    (preserved : ∀ state input, invariant state → condition state input →
      invariant (step state input))
    {state : σ} {inputs : List ι} (start : invariant state) :
    Along step (fun state input => property (step state input)) state inputs ↔
      Along step condition state inputs := by
  induction inputs generalizing state with
  | nil => exact Iff.rfl
  | cons input rest ih =>
      constructor
      · rintro ⟨next, later⟩
        have holds := (kept state input start).mp next
        exact ⟨holds, (ih (preserved state input start holds)).mp later⟩
      · rintro ⟨holds, later⟩
        exact ⟨(kept state input start).mpr holds,
          (ih (preserved state input start holds)).mpr later⟩

theorem along_iff {step : σ → ι → σ} {condition : σ → ι → Prop} (property : σ → Prop)
    (kept : ∀ state input, property state →
      (property (step state input) ↔ condition state input))
    {state : σ} {inputs : List ι} (start : property state) :
    Along step (fun state input => property (step state input)) state inputs ↔
      Along step condition state inputs :=
  along_iff_of_invariant property kept
    (fun state input holds => (kept state input holds).mpr) start

/-- Two runs side by side, with each pair of inputs matched in the states that meet it. -/
def Lockstep (step : σ → ι → σ) (matched : σ → σ → ι → ι → Prop) :
    σ → σ → List ι → List ι → Prop
  | _, _, [], [] => True
  | left, right, input :: inputs, other :: others =>
      matched left right input other ∧
        Lockstep step matched (step left input) (step right other) inputs others
  | _, _, [], _ :: _ => False
  | _, _, _ :: _, [] => False

theorem lockstep_invariant {step : σ → ι → σ} {matched : σ → σ → ι → ι → Prop}
    (related : σ → σ → Prop)
    (preserved : ∀ left right input other, related left right → matched left right input other →
      related (step left input) (step right other))
    {left right : σ} {inputs others : List ι} (start : related left right)
    (together : Lockstep step matched left right inputs others) :
    related (run step left inputs) (run step right others) := by
  induction inputs generalizing left right others with
  | nil =>
      cases others with
      | nil => exact start
      | cons other others => exact together.elim
  | cons input inputs ih =>
      cases others with
      | nil => exact together.elim
      | cons other others =>
          rw [run_cons, run_cons]
          exact ih (preserved left right input other start together.1) together.2

end EmsGateway.Library
