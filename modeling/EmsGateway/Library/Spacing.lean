import Mathlib.Data.List.Basic

/-!
A timer that is armed anew each time it has fired, late as that may be: strictly after the firing
is over, and at least one period after it was due. However late the firings run, any `m + 2` of them
in a row then span more than `m` periods, so that no delay is ever made up for by a burst.
-/

namespace EmsGateway.Library.Spacing

structure Firing where
  started : ℕ
  finished : ℕ
  deriving DecidableEq, Repr

/-- `next` is when a timer that was due at `due` and done firing at `now` is due again. -/
structure Rearms (period due now next : ℕ) : Prop where
  later : now < next
  apart : due + period ≤ next

/-- What the firings of a timer that is due at `next` satisfy, the newest first. -/
structure Fired (period next : ℕ) (firings : List Firing) : Prop where
  below : ∀ k (firing : Firing), firings[k]? = some firing → firing.finished + k * period < next
  spaced : ∀ j k (early late : Firing), firings[j]? = some late →
    firings[j + k + 1]? = some early → early.finished + k * period < late.started

theorem fired_nil (period next : ℕ) : Fired period next [] := by
  refine ⟨?_, ?_⟩
  · intro k firing found
    simp at found
  · intro j k early late found
    simp at found

theorem Fired.fire {period due next : ℕ} {firing : Firing} {firings : List Firing}
    (fired : Fired period due firings) (reached : due ≤ firing.started)
    (rearms : Rearms period due firing.finished next) : Fired period next (firing :: firings) := by
  refine ⟨?_, ?_⟩
  · intro k other found
    cases k with
    | zero =>
        simp only [List.getElem?_cons_zero, Option.some.injEq] at found
        subst found
        simpa using rearms.later
    | succ k =>
        rw [List.getElem?_cons_succ] at found
        have before := fired.below k other found
        have apart := rearms.apart
        rw [Nat.succ_mul]
        omega
  · intro j k early late newer older
    rw [List.getElem?_cons_succ] at older
    cases j with
    | zero =>
        simp only [List.getElem?_cons_zero, Option.some.injEq] at newer
        subst newer
        rw [Nat.zero_add] at older
        exact Nat.lt_of_lt_of_le (fired.below k early older) reached
    | succ j =>
        rw [List.getElem?_cons_succ] at newer
        exact fired.spaced j k early late newer (by rwa [Nat.add_right_comm] at older)

end EmsGateway.Library.Spacing
