import Mathlib

/-!
Fallible code that returns `Except` or `Option`: turning an absent value into an error, and what
a traversal that succeeded says about each of its elements.
-/

namespace EmsGateway.Library

universe u v

variable {ε : Type v} {α β : Type u}

def okOr (value : Option α) (error : ε) : Except ε α :=
  match value with
  | some v => .ok v
  | none => .error error

@[simp] theorem okOr_some (v : α) (error : ε) : okOr (some v) error = .ok v := rfl

@[simp] theorem okOr_none (error : ε) : okOr (none : Option α) error = .error error := rfl

@[simp] theorem throw_eq_error (error : ε) : (throw error : Except ε α) = .error error := rfl

theorem mapError_ok {δ : Type v} {result : Except ε α} {f : ε → δ} {value : α}
    (succeeded : result.mapError f = .ok value) : result = .ok value := by
  cases result with
  | error e => simp [Except.mapError] at succeeded
  | ok found => simpa [Except.mapError] using succeeded

theorem bind_ok {x : Except ε α} {f : α → Except ε β} {b : β} (succeeded : x >>= f = .ok b) :
    ∃ a, x = .ok a ∧ f a = .ok b := by
  cases x with
  | error e => simp [bind, Except.bind] at succeeded
  | ok a => exact ⟨a, rfl, succeeded⟩

theorem ok_of_toBool {x : Except ε α} (succeeds : x.toBool = true) : ∃ a, x = .ok a := by
  cases x with
  | error e => exact absurd succeeds (by simp [Except.toBool])
  | ok a => exact ⟨a, rfl⟩

theorem okOr_ok {value : Option α} {error : ε} {v : α} (succeeded : okOr value error = .ok v) :
    value = some v := by
  cases value with
  | none => simp at succeeded
  | some found =>
      simp only [okOr_some, Except.ok.injEq] at succeeded
      rw [succeeded]

theorem mapM_ok {f : α → Except ε β} {inputs : List α} {outputs : List β}
    (succeeded : inputs.mapM f = .ok outputs) :
    List.Forall₂ (fun a b => f a = .ok b) inputs outputs := by
  induction inputs generalizing outputs with
  | nil =>
      simp only [List.mapM_nil, pure, Except.pure, Except.ok.injEq] at succeeded
      subst succeeded
      exact .nil
  | cons a rest ih =>
      rw [List.mapM_cons] at succeeded
      obtain ⟨b, first, succeeded⟩ := bind_ok succeeded
      obtain ⟨others, later, same⟩ := bind_ok succeeded
      simp only [pure, Except.pure, Except.ok.injEq] at same
      subst same
      exact .cons first (ih later)

theorem mapM_ok_mem {f : α → Except ε β} {inputs : List α} {outputs : List β}
    (succeeded : inputs.mapM f = .ok outputs) : ∀ a ∈ inputs, ∃ b, f a = .ok b := by
  have each := mapM_ok succeeded
  clear succeeded
  induction each with
  | nil => simp
  | cons first _ ih =>
      intro a member
      rcases List.mem_cons.mp member with rfl | isRest
      · exact ⟨_, first⟩
      · exact ih a isRest

/-- A traversal in `Option` is all or nothing. -/
theorem mapM_some_eq (f : α → Option β) (inputs : List α) : inputs.mapM f =
    if inputs.all fun a => (f a).isSome then some (inputs.filterMap f) else none := by
  induction inputs with
  | nil => rfl
  | cons a rest ih =>
      rw [List.mapM_cons, ih]
      cases found : f a with
      | none => simp [found]
      | some b =>
          by_cases later : rest.all fun a => (f a).isSome
          · simp [found, later]
          · simp [found, later]

theorem mapM_some_filterMap {f : α → Option β} {inputs : List α} {outputs : List β}
    (succeeded : inputs.mapM f = some outputs) : outputs = inputs.filterMap f := by
  rw [mapM_some_eq] at succeeded
  split at succeeded
  · exact (Option.some.inj succeeded).symm
  · exact absurd succeeded (Option.some_ne_none _).symm

theorem mapM_some_mem {f : α → Option β} {inputs : List α} {outputs : List β}
    (succeeded : inputs.mapM f = some outputs) {b : β} (member : b ∈ outputs) :
    ∃ a ∈ inputs, f a = some b := by
  rw [mapM_some_filterMap succeeded] at member
  exact List.mem_filterMap.mp member

theorem isOk_bind_pure (x : Except ε α) (f : α → β) :
    (x >>= fun a => pure (f a)).isOk = x.isOk := by
  cases x <;> rfl

theorem isOk_bind_congr {x : Except ε α} {f g : α → Except ε β}
    (same : ∀ a, (f a).isOk = (g a).isOk) : (x >>= f).isOk = (x >>= g).isOk := by
  cases x with
  | error e => rfl
  | ok a => exact same a

theorem mapM_congr_of_mem {m : Type → Type} [Monad m] [LawfulMonad m] {α β : Type} {f g : α → m β}
    {inputs : List α} (same : ∀ a ∈ inputs, f a = g a) : inputs.mapM f = inputs.mapM g := by
  induction inputs with
  | nil => rfl
  | cons a rest ih =>
      rw [List.mapM_cons, List.mapM_cons, same a (List.mem_cons_self ..),
        ih fun b member => same b (List.mem_cons_of_mem a member)]

theorem forM_ok_iff {f : α → Except ε PUnit} {inputs : List α} :
    inputs.forM f = .ok ⟨⟩ ↔ ∀ a ∈ inputs, f a = .ok ⟨⟩ := by
  induction inputs with
  | nil => simp [pure, Except.pure]
  | cons a rest ih =>
      have unfolded : (a :: rest).forM f = (f a >>= fun _ => rest.forM f) := rfl
      rw [unfolded, List.forall_mem_cons, ← ih]
      cases f a with
      | error message => simp [bind, Except.bind]
      | ok done => simp [bind, Except.bind]

theorem isOk_mapM_congr {f g : α → Except ε β} {inputs : List α}
    (same : ∀ a ∈ inputs, (f a).isOk = (g a).isOk) :
    (inputs.mapM f).isOk = (inputs.mapM g).isOk := by
  induction inputs with
  | nil => rfl
  | cons a rest ih =>
      have first := same a List.mem_cons_self
      have later := ih fun other member => same other (List.mem_cons_of_mem _ member)
      rw [List.mapM_cons, List.mapM_cons]
      cases left : f a with
      | error e =>
          cases right : g a with
          | error e' => rfl
          | ok b => simp [left, right, Except.isOk, Except.toBool] at first
      | ok b =>
          cases right : g a with
          | error e => simp [left, right, Except.isOk, Except.toBool] at first
          | ok b' =>
              calc (rest.mapM f >>= fun others => pure (b :: others)).isOk
                  = (rest.mapM f).isOk := isOk_bind_pure _ _
                _ = (rest.mapM g).isOk := later
                _ = (rest.mapM g >>= fun others => pure (b' :: others)).isOk :=
                    (isOk_bind_pure _ _).symm

theorem exists_of_isOk {x : Except ε α} (succeeded : x.isOk = true) : ∃ a, x = .ok a := by
  cases x with
  | error e => simp [Except.isOk, Except.toBool] at succeeded
  | ok a => exact ⟨a, rfl⟩

theorem exists_of_not_isOk {x : Except ε α} (failed : ¬x.isOk = true) : ∃ e, x = .error e := by
  cases x with
  | error e => exact ⟨e, rfl⟩
  | ok a => exact absurd rfl failed

end EmsGateway.Library
