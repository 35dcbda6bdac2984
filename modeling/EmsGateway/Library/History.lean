import EmsGateway.Library.Runs

/-!
The history of a run: every state it went through, with the input it met there. `Sustained` says
that a condition has held over a stretch that reaches to the end of a history and lasts for a given
time, which is what a timer that restarts at every lapse can vouch for.
-/

namespace EmsGateway.Library

section History

variable {σ ι : Type*} {step : σ → ι → σ}

def history (step : σ → ι → σ) : σ → List ι → List (σ × ι)
  | _, [] => []
  | state, input :: rest => (state, input) :: history step (step state input) rest

theorem history_concat (state : σ) (inputs : List ι) (input : ι) :
    history step state (inputs ++ [input]) =
      history step state inputs ++ [(run step state inputs, input)] := by
  induction inputs generalizing state with
  | nil => rfl
  | cons first rest ih =>
      simp only [List.cons_append, history, run_cons, ih]

theorem run_concat (state : σ) (inputs : List ι) (input : ι) :
    run step state (inputs ++ [input]) = step (run step state inputs) input := by
  rw [run_append, run_cons, run_nil]

/-- What relates the past of a run to its present state, and survives every step of a history that
is allowed as a whole, holds at the end of it. -/
theorem history_invariant {allowed : List (σ × ι) → Prop} {invariant : List (σ × ι) → σ → Prop}
    (shorter : ∀ past moment, allowed (past ++ [moment]) → allowed past)
    (preserved : ∀ past now input, allowed (past ++ [(now, input)]) → invariant past now →
      invariant (past ++ [(now, input)]) (step now input))
    {state : σ} (start : invariant [] state) {inputs : List ι}
    (permitted : allowed (history step state inputs)) :
    invariant (history step state inputs) (run step state inputs) := by
  induction inputs using List.reverseRecOn with
  | nil => exact start
  | append_singleton inputs input ih =>
      rw [history_concat] at permitted
      rw [history_concat, run_concat]
      exact preserved _ _ _ permitted (ih (shorter _ _ permitted))

end History

section Sustained

variable {μ : Type*} {holds other : μ → Prop} {duration : μ → ℕ} {past : List μ} {total : ℕ}

def Sustained (holds : μ → Prop) (duration : μ → ℕ) (past : List μ) (total : ℕ) : Prop :=
  ∃ before stretch, before ++ stretch = past ∧ (∀ moment ∈ stretch, holds moment) ∧
    total ≤ (stretch.map duration).sum

/-- The stretch includes `last`, the moment right after the past. -/
def SustainedTo (holds : μ → Prop) (duration : μ → ℕ) (past : List μ) (last : μ) (total : ℕ) :
    Prop :=
  ∃ before stretch, before ++ stretch = past ∧ (∀ moment ∈ stretch ++ [last], holds moment) ∧
    total ≤ ((stretch ++ [last]).map duration).sum

theorem Sustained.zero (holds : μ → Prop) (duration : μ → ℕ) (past : List μ) :
    Sustained holds duration past 0 :=
  ⟨past, [], by simp, by simp, by simp⟩

theorem Sustained.upTo (lasted : Sustained holds duration past total) {last : μ}
    (now : holds last) : SustainedTo holds duration past last (total + duration last) := by
  obtain ⟨before, stretch, rfl, held, long⟩ := lasted
  refine ⟨before, stretch, rfl, ?_, ?_⟩
  · intro moment member
    rcases List.mem_append.mp member with earlier | latest
    · exact held moment earlier
    · obtain rfl := List.mem_singleton.mp latest
      exact now
  · simp only [List.map_append, List.map_cons, List.map_nil, List.sum_append, List.sum_cons,
      List.sum_nil]
    omega

theorem SustainedTo.sustained {last : μ} (lasted : SustainedTo holds duration past last total) :
    Sustained holds duration (past ++ [last]) total := by
  obtain ⟨before, stretch, rfl, held, long⟩ := lasted
  exact ⟨before, stretch ++ [last], by simp, held, long⟩

theorem SustainedTo.shorter {last : μ} (lasted : SustainedTo holds duration past last total)
    {less : ℕ} (enough : less ≤ total) : SustainedTo holds duration past last less := by
  obtain ⟨before, stretch, same, held, long⟩ := lasted
  exact ⟨before, stretch, same, held, enough.trans long⟩

theorem SustainedTo.last {last : μ} (lasted : SustainedTo holds duration past last total) :
    holds last := by
  obtain ⟨before, stretch, same, held, long⟩ := lasted
  exact held last (by simp)

/-- A lapse just before the last moment leaves that moment alone. -/
theorem SustainedTo.le_of_lapse {last lapsed : μ}
    (lasted : SustainedTo holds duration (past ++ [lapsed]) last total) (lapse : ¬holds lapsed) :
    total ≤ duration last := by
  obtain ⟨before, stretch, same, held, long⟩ := lasted
  have empty : stretch = [] := by
    induction stretch using List.reverseRecOn with
    | nil => rfl
    | append_singleton stretch moment _ =>
        rw [← List.append_assoc] at same
        obtain ⟨_, rfl⟩ := List.append_singleton_inj.mp same
        exact absurd (held moment (by simp)) lapse
  subst empty
  simpa using long

end Sustained

end EmsGateway.Library
