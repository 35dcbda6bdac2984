import Mathlib

/-!
An integrator that spends at most a fraction of a delayed measurement of its own headroom
never overdraws, as long as the gain is small against the delay: if the headroom keeps at
least the fraction `keep` of itself at every step, the oldest reading is at most `keep⁻ⁿ`
times the present one, so a gain of at most `(1 - keep) * keep ^ n` keeps it once more.
-/

namespace EmsGateway.Library

variable {𝕜 : Type*} [Field 𝕜] [LinearOrder 𝕜] [IsStrictOrderedRing 𝕜]

def Retains (keep : 𝕜) (headroom : ℕ → 𝕜) (k : ℕ) : Prop :=
  (∀ i ≤ k, 0 ≤ headroom i) ∧ ∀ i < k, keep * headroom i ≤ headroom (i + 1)

theorem Retains.delayed_le {keep : 𝕜} {headroom : ℕ → 𝕜} {k : ℕ}
    (keepPositive : 0 ≤ keep) (retains : Retains keep headroom k) :
    ∀ lag ≤ k, keep ^ lag * headroom (k - lag) ≤ headroom k := by
  intro lag
  induction lag with
  | zero => intro _; simp
  | succ lag ih =>
      intro bound
      have next : k - (lag + 1) + 1 = k - lag := by omega
      have once := retains.2 (k - (lag + 1)) (by omega)
      rw [next] at once
      calc keep ^ (lag + 1) * headroom (k - (lag + 1))
          = keep ^ lag * (keep * headroom (k - (lag + 1))) := by ring
        _ ≤ keep ^ lag * headroom (k - lag) :=
            mul_le_mul_of_nonneg_left once (pow_nonneg keepPositive lag)
        _ ≤ headroom k := ih (by omega)

theorem Retains.delayed_le_of_lag {keep : 𝕜} {headroom : ℕ → 𝕜} {k delay lag : ℕ}
    (keepPositive : 0 ≤ keep) (keepAtMostOne : keep ≤ 1)
    (retains : Retains keep headroom k) (short : lag ≤ delay) :
    keep ^ delay * headroom (k - lag) ≤ headroom k := by
  have settled : k - lag = k - min lag k := by omega
  have reading : 0 ≤ headroom (k - lag) := retains.1 _ (by omega)
  have power : keep ^ delay ≤ keep ^ min lag k :=
    pow_le_pow_of_le_one keepPositive keepAtMostOne (by omega)
  calc keep ^ delay * headroom (k - lag)
      ≤ keep ^ min lag k * headroom (k - lag) := mul_le_mul_of_nonneg_right power reading
    _ = keep ^ min lag k * headroom (k - min lag k) := by rw [settled]
    _ ≤ headroom k := retains.delayed_le keepPositive _ (by omega)

/-- A delayed integrator never overdraws its headroom. At each step it may spend `gain`
times the headroom it had `lag` steps ago, and only a non-negative reading is spent. -/
theorem delayedIntegrator_nonneg (keep gain : 𝕜) (delay : ℕ) (headroom : ℕ → 𝕜)
    (keepPositive : 0 < keep) (keepAtMostOne : keep ≤ 1)
    (margin : gain ≤ (1 - keep) * keep ^ delay) (start : 0 ≤ headroom 0)
    (spends : ∀ k, ∃ lag ≤ delay, 0 ≤ headroom (k - lag) →
      headroom k - gain * headroom (k - lag) ≤ headroom (k + 1)) :
    ∀ k, 0 ≤ headroom k := by
  have retains : ∀ k, Retains keep headroom k := by
    intro k
    induction k with
    | zero =>
        refine ⟨?_, by omega⟩
        intro i bound
        obtain rfl : i = 0 := by omega
        exact start
    | succ k ih =>
        obtain ⟨lag, short, spent⟩ := spends k
        have reading : 0 ≤ headroom (k - lag) := ih.1 _ (by omega)
        have present : 0 ≤ headroom k := ih.1 k le_rfl
        have delayed := ih.delayed_le_of_lag keepPositive.le keepAtMostOne short
        have kept : keep * headroom k ≤ headroom (k + 1) := by
          calc keep * headroom k
              = headroom k - (1 - keep) * headroom k := by ring
            _ ≤ headroom k - (1 - keep) * (keep ^ delay * headroom (k - lag)) := by
                have := mul_le_mul_of_nonneg_left delayed (sub_nonneg.mpr keepAtMostOne)
                linarith
            _ = headroom k - (1 - keep) * keep ^ delay * headroom (k - lag) := by ring
            _ ≤ headroom k - gain * headroom (k - lag) := by
                have := mul_le_mul_of_nonneg_right margin reading
                linarith
            _ ≤ headroom (k + 1) := spent reading
        constructor
        · intro i bound
          rcases Nat.lt_or_eq_of_le bound with earlier | rfl
          · exact ih.1 i (by omega)
          · exact (mul_nonneg keepPositive.le present).trans kept
        · intro i bound
          rcases Nat.lt_or_eq_of_le (Nat.le_of_lt_succ bound) with earlier | rfl
          · exact ih.2 i earlier
          · exact kept
  intro k
  exact (retains k).1 k le_rfl

end EmsGateway.Library
