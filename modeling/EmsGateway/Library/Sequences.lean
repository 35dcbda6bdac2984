import Mathlib

/-!
Sequences that only rise or only fall: what both ends have, all between have; and integers of which
no two neighbours are equal lie at least as far apart as there are steps between them.
-/

namespace EmsGateway.Library

theorem mem_of_ends {α : Type*} [LinearOrder α] {range : Set α} (convex : range.OrdConnected)
    {s : ℕ → α} (directed : Monotone s ∨ Antitone s) {n : ℕ} (first : s 0 ∈ range)
    (last : s n ∈ range) {k : ℕ} (inside : k ≤ n) : s k ∈ range := by
  rcases directed with rising | falling
  · exact convex.out first last ⟨rising (Nat.zero_le k), rising inside⟩
  · exact convex.out last first ⟨falling inside, falling (Nat.zero_le k)⟩

variable {s : ℕ → ℤ} {n : ℕ}

theorem le_sub_of_apart (rising : Monotone s) (apart : ∀ k < n, s k ≠ s (k + 1)) :
    (n : ℤ) ≤ s n - s 0 := by
  induction n with
  | zero => simp
  | succ n ih =>
      have earlier := ih fun k below => apart k (by omega)
      have next : s n < s (n + 1) := lt_of_le_of_ne (rising (by omega)) (apart n (by omega))
      push_cast
      omega

theorem le_abs_sub_of_apart (directed : Monotone s ∨ Antitone s)
    (apart : ∀ k < n, s k ≠ s (k + 1)) : (n : ℤ) ≤ |s n - s 0| := by
  rcases directed with rising | falling
  · exact (le_sub_of_apart rising apart).trans (le_abs_self _)
  · have mirrored : (n : ℤ) ≤ -s n - -s 0 :=
      le_sub_of_apart (s := fun k => -s k) falling.neg fun k below same =>
        apart k below (neg_injective same)
    rw [abs_sub_comm]
    exact (by linarith : (n : ℤ) ≤ s 0 - s n).trans (le_abs_self _)

theorem abs_sub_le_of_small (small : ∀ k, |s (k + 1) - s k| ≤ 1) (start steps : ℕ) :
    |s (start + steps) - s start| ≤ steps := by
  induction steps with
  | zero => simp
  | succ steps ih =>
      have last := small (start + steps)
      have total := abs_sub_le (s (start + steps + 1)) (s (start + steps)) (s start)
      push_cast
      rw [← add_assoc]
      linarith

/-- Steps of at most one cannot cover the distance if one of them stands still. -/
theorem apart_of_le_abs_sub (small : ∀ k, |s (k + 1) - s k| ≤ 1) (far : (n : ℤ) ≤ |s n - s 0|) :
    ∀ k < n, s k ≠ s (k + 1) := by
  intro k below same
  have before := abs_sub_le_of_small small 0 k
  have after := abs_sub_le_of_small small (k + 1) (n - (k + 1))
  rw [Nat.add_sub_cancel' below] at after
  rw [zero_add] at before
  have total := abs_sub_le (s n) (s (k + 1)) (s 0)
  rw [← same] at total after
  omega

end EmsGateway.Library
