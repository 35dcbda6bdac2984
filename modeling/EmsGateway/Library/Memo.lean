import EmsGateway.Library.Runs

/-!
A value made on demand, once for each key, and shared from then on. A call that finds nothing makes
a value without the lock, so several calls may make one for the same key; the first that is stored
is the one every call gets, and the others are dropped.
-/

namespace EmsGateway.Library

variable {ρ κ ν α ε : Type*}

/-- The key of a request, and how a value is made for it, given what the outside answers. -/
structure Memo (ρ κ ν α ε : Type*) where
  key : ρ → κ
  make : ρ → α → Except ε ν

namespace Memo

inductive Progress (ρ ν : Type*) where
  | idle
  | missed (request : ρ)
  | made (request : ρ) (value : ν)

structure State (ρ κ ν : Type*) where
  entries : κ → Option ν
  calls : ℕ → Progress ρ ν
  asked : List ρ
  returned : List (ρ × ν)

def State.empty : State ρ κ ν := ⟨fun _ => none, fun _ => .idle, [], []⟩

inductive Step (ρ α : Type*) where
  | look (caller : ℕ) (request : ρ)
  | make (caller : ℕ) (answer : α)
  | keep (caller : ℕ)

def step [DecidableEq κ] (memo : Memo ρ κ ν α ε) (s : State ρ κ ν) (input : Step ρ α) : State ρ κ ν :=
  match input with
  | .look caller request =>
      match s.calls caller, s.entries (memo.key request) with
      | .idle, some value =>
          { s with asked := request :: s.asked, returned := (request, value) :: s.returned }
      | .idle, none =>
          { s with
            asked := request :: s.asked
            calls := Function.update s.calls caller (.missed request) }
      | _, _ => s
  | .make caller answer =>
      match s.calls caller with
      | .missed request =>
          match memo.make request answer with
          | .ok value => { s with calls := Function.update s.calls caller (.made request value) }
          | .error _ => { s with calls := Function.update s.calls caller .idle }
      | _ => s
  | .keep caller =>
      match s.calls caller with
      | .made request value =>
          let kept := (s.entries (memo.key request)).getD value
          { s with
            entries := Function.update s.entries (memo.key request) (some kept)
            calls := Function.update s.calls caller .idle
            returned := (request, kept) :: s.returned }
      | _ => s

/-- The value was made for one of the requests with the key. -/
def MadeFor (memo : Memo ρ κ ν α ε) (s : State ρ κ ν) (key : κ) (value : ν) : Prop :=
  ∃ request ∈ s.asked, memo.key request = key ∧ ∃ answer, memo.make request answer = .ok value

def Progress.Sound (memo : Memo ρ κ ν α ε) (s : State ρ κ ν) (progress : Progress ρ ν) : Prop :=
  match progress with
  | .idle => True
  | .missed request => request ∈ s.asked
  | .made request value => memo.MadeFor s (memo.key request) value

structure Kept (memo : Memo ρ κ ν α ε) (s : State ρ κ ν) : Prop where
  calls : ∀ caller, (s.calls caller).Sound memo s
  entries : ∀ key value, s.entries key = some value → memo.MadeFor s key value
  returned : ∀ answer ∈ s.returned, s.entries (memo.key answer.1) = some answer.2

section Steps

variable {memo : Memo ρ κ ν α ε} {s : State ρ κ ν}

theorem MadeFor.ask {key : κ} {value : ν} (made : memo.MadeFor s key value) {other : State ρ κ ν}
    (more : s.asked ⊆ other.asked) : memo.MadeFor other key value := by
  obtain ⟨request, asked, same, answer⟩ := made
  exact ⟨request, more asked, same, answer⟩

theorem Progress.Sound.ask {progress : Progress ρ ν} (sound : progress.Sound memo s)
    {other : State ρ κ ν} (more : s.asked ⊆ other.asked) : progress.Sound memo other := by
  cases progress with
  | idle => trivial
  | missed request => exact more sound
  | made request value => exact MadeFor.ask sound more

/-- A call moves on to where it may be. -/
theorem Kept.move (kept : Kept memo s) {caller : ℕ} {progress : Progress ρ ν}
    (sound : progress.Sound memo s) :
    ∀ other, (Function.update s.calls caller progress other).Sound memo s := by
  intro other
  by_cases own : other = caller
  · rw [own, Function.update_self]
    exact sound
  · rw [Function.update_of_ne own]
    exact kept.calls other

theorem Kept.agree (kept : Kept memo s) {first second : ρ × ν} (one : first ∈ s.returned)
    (two : second ∈ s.returned) (same : memo.key first.1 = memo.key second.1) :
    first.2 = second.2 := by
  have stored := kept.returned first one
  rw [same, kept.returned second two] at stored
  exact (Option.some.inj stored).symm

theorem Kept.madeFor (kept : Kept memo s) {answer : ρ × ν} (member : answer ∈ s.returned) :
    memo.MadeFor s (memo.key answer.1) answer.2 :=
  kept.entries _ _ (kept.returned answer member)

variable [DecidableEq κ]

theorem Kept.keep (kept : Kept memo s) {caller : ℕ} {request : ρ} {value : ν}
    (made : s.calls caller = .made request value) : Kept memo (memo.step s (.keep caller)) := by
  have sound : memo.MadeFor s (memo.key request) value := by
    have progress := kept.calls caller
    rwa [made] at progress
  unfold step
  dsimp only
  rw [made]
  dsimp only
  refine ⟨kept.move trivial, ?_, ?_⟩
  · intro key other found
    dsimp only at found
    by_cases same : key = memo.key request
    · subst same
      rw [Function.update_self, Option.some.injEq] at found
      subst found
      cases old : s.entries (memo.key request) with
      | none => exact sound
      | some first => exact kept.entries _ first old
    · rw [Function.update_of_ne same] at found
      exact kept.entries key other found
  · -- an entry that is there stays as it is, so what was returned before still stands
    intro answer member
    dsimp only
    rcases List.mem_cons.mp member with rfl | earlier
    · rw [Function.update_self]
    · have stored := kept.returned answer earlier
      by_cases same : memo.key answer.1 = memo.key request
      · rw [← same, Function.update_self, stored, Option.getD_some]
      · rw [Function.update_of_ne same]
        exact stored

theorem Kept.step (kept : Kept memo s) (input : Step ρ α) : Kept memo (memo.step s input) := by
  cases input with
  | look caller request =>
      have more : s.asked ⊆ request :: s.asked := List.subset_cons_self request s.asked
      unfold Memo.step
      dsimp only
      split
      · rename_i value _ found
        refine ⟨fun other => (kept.calls other).ask more,
          fun key other stored => (kept.entries key other stored).ask more, ?_⟩
        intro answer member
        rcases List.mem_cons.mp member with rfl | earlier
        · exact found
        · exact kept.returned answer earlier
      · refine ⟨?_, fun key other stored => (kept.entries key other stored).ask more, kept.returned⟩
        intro other
        dsimp only
        by_cases own : other = caller
        · rw [own, Function.update_self]
          exact List.mem_cons_self
        · rw [Function.update_of_ne own]
          exact (kept.calls other).ask more
      · exact kept
  | make caller answer =>
      unfold Memo.step
      dsimp only
      split
      · rename_i request missed
        have asked : request ∈ s.asked := by
          have progress := kept.calls caller
          rwa [missed] at progress
        split
        · rename_i value made
          exact ⟨kept.move ⟨request, asked, rfl, answer, made⟩, kept.entries, kept.returned⟩
        · exact ⟨kept.move trivial, kept.entries, kept.returned⟩
      · exact kept
  | keep caller =>
      cases made : s.calls caller with
      | idle => simpa only [Memo.step, made] using kept
      | missed request => simpa only [Memo.step, made] using kept
      | made request value => exact kept.keep made

theorem kept_run (memo : Memo ρ κ ν α ε) (steps : List (Step ρ α)) :
    Kept memo (run memo.step .empty steps) := by
  have empty : Kept memo (.empty : State ρ κ ν) := by
    refine ⟨fun _ => trivial, ?_, ?_⟩
    · rintro key value ⟨⟩
    · intro answer member
      exact absurd member List.not_mem_nil
  exact run_invariant (Kept memo) (fun _ input kept _ => kept.step input) empty
    (along_of_forall (fun _ _ => trivial) _ _)

end Steps

end Memo

end EmsGateway.Library
