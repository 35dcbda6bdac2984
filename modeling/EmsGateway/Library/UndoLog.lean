import Mathlib

/-!
Cells that writers set before they know whether they may keep them. Every write is logged with
the value it replaced; a writer that fails later puts that value back, but only if the cell
still holds its own. `Agrees` says that each cell holds the newest value that was not taken
back, and `CleanUndo` when such a compare-and-restore keeps it so.
-/

namespace EmsGateway.Library

inductive Standing where
  | pending
  | kept
  | undone
  deriving DecidableEq, Repr

structure Entry (κ α : Type*) where
  key : κ
  value : α
  previous : Option α
  standing : Standing

variable {κ α : Type*} [DecidableEq κ]

def Entry.at (entry : Entry κ α) (key : κ) : Option α :=
  if entry.key = key ∧ entry.standing ≠ .undone then some entry.value else none

def newest : List (Entry κ α) → κ → Option α
  | [], _ => none
  | entry :: later, key => (newest later key).or (entry.at key)

theorem newest_append (older later : List (Entry κ α)) (key : κ) :
    newest (older ++ later) key = (newest later key).or (newest older key) := by
  induction older with
  | nil => simp [newest]
  | cons entry rest ih => rw [List.cons_append, newest, ih, newest, Option.or_assoc]

def Agrees (initial current : κ → Option α) (log : List (Entry κ α)) : Prop :=
  ∀ key, current key = (newest log key).or (initial key)

theorem Agrees.record {initial current : κ → Option α} {log : List (Entry κ α)}
    (agrees : Agrees initial current log) (key : κ) (value : α) :
    Agrees initial (Function.update current key (some value))
      (log ++ [⟨key, value, current key, .pending⟩]) := by
  intro other
  rw [newest_append]
  by_cases same : other = key
  · subst same
    simp [newest, Entry.at]
  · rw [Function.update_of_ne same, agrees other]
    simp [newest, Entry.at, Ne.symm same]

theorem Agrees.keep {initial current : κ → Option α} {older newer : List (Entry κ α)}
    {entry : Entry κ α} (agrees : Agrees initial current (older ++ entry :: newer))
    (pending : entry.standing = .pending) :
    Agrees initial current (older ++ { entry with standing := .kept } :: newer) := by
  intro key
  rw [agrees key, newest_append, newest_append]
  simp [newest, Entry.at, pending]

variable [DecidableEq α]

def undo (current : κ → Option α) (entry : Entry κ α) : κ → Option α :=
  if current entry.key = some entry.value then Function.update current entry.key entry.previous
  else current

/-- An undo is clean if nobody wrote since and what it puts back still stands, or if somebody
wrote a different value since. -/
def CleanUndo (initial : κ → Option α) (older : List (Entry κ α)) (entry : Entry κ α)
    (newer : List (Entry κ α)) : Prop :=
  match newest newer entry.key with
  | none => entry.previous = (newest older entry.key).or (initial entry.key)
  | some value => value ≠ entry.value ∨ entry.previous = some value

instance (initial : κ → Option α) (older : List (Entry κ α)) (entry : Entry κ α)
    (newer : List (Entry κ α)) : Decidable (CleanUndo initial older entry newer) :=
  match found : newest newer entry.key with
  | none =>
      decidable_of_iff (entry.previous = (newest older entry.key).or (initial entry.key))
        (by simp [CleanUndo, found])
  | some value =>
      decidable_of_iff (value ≠ entry.value ∨ entry.previous = some value)
        (by simp [CleanUndo, found])

theorem undo_of_ne (current : κ → Option α) (entry : Entry κ α) {key : κ}
    (elsewhere : key ≠ entry.key) : undo current entry key = current key := by
  unfold undo
  split
  · exact Function.update_of_ne elsewhere _ _
  · rfl

theorem Agrees.undo {initial current : κ → Option α} {older newer : List (Entry κ α)}
    {entry : Entry κ α} (agrees : Agrees initial current (older ++ entry :: newer))
    (pending : entry.standing = .pending) (clean : CleanUndo initial older entry newer) :
    Agrees initial (undo current entry)
      (older ++ { entry with standing := .undone } :: newer) := by
  intro key
  have before := agrees key
  rw [newest_append, newest] at before
  rw [newest_append, newest]
  by_cases same : key = entry.key
  · subst same
    simp only [Entry.at, pending, ne_eq, reduceCtorEq, not_false_eq_true, and_true,
      if_true] at before
    have gone : Entry.at { entry with standing := .undone } entry.key = none := by
      simp [Entry.at]
    rw [gone, Option.or_none]
    unfold CleanUndo at clean
    -- the newest entry after this one decides which of the two ways of being clean applies
    cases found : newest newer entry.key with
    | none =>
        rw [found] at clean before
        simp only [Option.none_or, Option.some_or] at clean before ⊢
        simp [Library.undo, before, clean]
    | some value =>
        rw [found] at clean before
        simp only [Option.some_or] at clean before ⊢
        by_cases ours : value = entry.value
        · have restored : entry.previous = some value := by simpa [ours] using clean
          simp [Library.undo, before, ours, restored]
        · simp [Library.undo, before, ours]
  · rw [undo_of_ne current entry same, before]
    simp [Entry.at, Ne.symm same]

end EmsGateway.Library
