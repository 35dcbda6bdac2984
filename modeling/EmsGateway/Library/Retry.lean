import Mathlib

/-!
A request that is tried again while it fails, up to a number of attempts, with a pause after each
failure. An answer that is definite, good or bad, ends it; how it ends is the answer of the first
attempt that did not just fail.
-/

namespace EmsGateway.Library

inductive Attempt (ε ν : Type*) where
  | done (value : ν)
  | refused (error : ε)
  | failed (error : ε)

inductive Failure (ε : Type*) where
  | refused (error : ε)
  | exhausted (last : Option ε)
  deriving DecidableEq, Repr

structure Tried (ε ν : Type*) where
  result : Except (Failure ε) ν
  requests : ℕ
  time : ℕ

variable {ε ν : Type*}

/-- From the given attempt on; each attempt comes with the time it took. -/
def retryFrom (pause : ℕ → ℕ) (attempts : ℕ → Attempt ε ν × ℕ) (attempt : ℕ) (last : Option ε) :
    ℕ → Tried ε ν
  | 0 => ⟨.error (.exhausted last), 0, 0⟩
  | remaining + 1 =>
      match attempts attempt with
      | (.done value, took) => ⟨.ok value, 1, took⟩
      | (.refused error, took) => ⟨.error (.refused error), 1, took⟩
      | (.failed error, took) =>
          let later := retryFrom pause attempts (attempt + 1) (some error) remaining
          ⟨later.result, later.requests + 1, took + pause attempt + later.time⟩

def retry (pause : ℕ → ℕ) (attempts : ℕ → Attempt ε ν × ℕ) (maxAttempts : ℕ) : Tried ε ν :=
  retryFrom pause attempts 0 none maxAttempts

/-- The attempt ends the request with the result. -/
def Attempt.Decides (attempt : Attempt ε ν) (result : Except (Failure ε) ν) : Prop :=
  match attempt with
  | .done value => result = .ok value
  | .refused error => result = .error (.refused error)
  | .failed _ => False

def Attempt.IsFailed (attempt : Attempt ε ν) : Prop := ∃ error, attempt = .failed error

section Retry

variable {pause : ℕ → ℕ} {attempts : ℕ → Attempt ε ν × ℕ}

theorem retryFrom_decided (remaining : ℕ) : ∀ (attempt : ℕ) (last : Option ε),
    let tried := retryFrom pause attempts attempt last remaining
    (∃ tries < remaining, (∀ k < tries, (attempts (attempt + k)).1.IsFailed) ∧
        (attempts (attempt + tries)).1.Decides tried.result ∧ tried.requests = tries + 1) ∨
      (∀ k < remaining, (attempts (attempt + k)).1.IsFailed) ∧
        (∃ final, tried.result = .error (.exhausted final)) ∧ tried.requests = remaining := by
  induction remaining with
  | zero =>
      intro attempt last
      exact .inr ⟨fun k less => absurd less (Nat.not_lt_zero k), ⟨last, rfl⟩, rfl⟩
  | succ remaining ih =>
      intro attempt last
      rcases answered : attempts attempt with ⟨answer, took⟩
      cases answer with
      | done value =>
          refine .inl ⟨0, Nat.succ_pos remaining, ?_, ?_, ?_⟩
          · exact fun k less => absurd less (Nat.not_lt_zero k)
          · simp [retryFrom, answered, Attempt.Decides]
          · simp [retryFrom, answered]
      | refused error =>
          refine .inl ⟨0, Nat.succ_pos remaining, ?_, ?_, ?_⟩
          · exact fun k less => absurd less (Nat.not_lt_zero k)
          · simp [retryFrom, answered, Attempt.Decides]
          · simp [retryFrom, answered]
      | failed error =>
          have first : (attempts (attempt + 0)).1.IsFailed := ⟨error, by simp [answered]⟩
          have onward : ∀ tries, (∀ k < tries, (attempts (attempt + 1 + k)).1.IsFailed) →
              ∀ k < tries + 1, (attempts (attempt + k)).1.IsFailed := by
            intro tries later k less
            cases k with
            | zero => exact first
            | succ k =>
                rw [← Nat.add_right_comm attempt 1 k |>.trans (Nat.add_assoc attempt k 1)]
                exact later k (Nat.lt_of_succ_lt_succ less)
          simp only [retryFrom, answered]
          rcases ih (attempt + 1) (some error) with ⟨tries, less, failed, decides, requests⟩ |
            ⟨failed, exhausted, requests⟩
          · refine .inl ⟨tries + 1, Nat.succ_lt_succ less, onward tries failed, ?_, ?_⟩
            · rwa [Nat.add_right_comm, Nat.add_assoc] at decides
            · rw [requests]
          · exact .inr ⟨onward remaining failed, exhausted, by rw [requests]⟩

theorem retryFrom_time {limit : ℕ} (prompt : ∀ k, (attempts k).2 ≤ limit) (remaining : ℕ) :
    ∀ (attempt : ℕ) (last : Option ε), (retryFrom pause attempts attempt last remaining).time ≤
      remaining * limit + ∑ k ∈ Finset.range remaining, pause (attempt + k) := by
  induction remaining with
  | zero => exact fun attempt last => Nat.zero_le _
  | succ remaining ih =>
      intro attempt last
      have took := prompt attempt
      have later := fun error => ih (attempt + 1) (some error)
      rw [Finset.sum_range_succ', Nat.succ_mul]
      simp only [Nat.add_zero]
      have shifted : ∑ k ∈ Finset.range remaining, pause (attempt + 1 + k) =
          ∑ k ∈ Finset.range remaining, pause (attempt + (k + 1)) :=
        Finset.sum_congr rfl fun k _ => by rw [Nat.add_assoc, Nat.add_comm 1 k]
      unfold retryFrom
      split
      · rename_i answered
        rw [answered] at took
        dsimp only at took ⊢
        omega
      · rename_i answered
        rw [answered] at took
        dsimp only at took ⊢
        omega
      · rename_i error spent answered
        rw [answered] at took
        have rest := later error
        rw [shifted] at rest
        dsimp only at took ⊢
        omega

/-- A request is decided by the first attempt that did not just fail, or by none. -/
theorem retry_decided (pause : ℕ → ℕ) (attempts : ℕ → Attempt ε ν × ℕ) (maxAttempts : ℕ) :
    let tried := retry pause attempts maxAttempts
    (∃ tries < maxAttempts, (∀ k < tries, (attempts k).1.IsFailed) ∧
        (attempts tries).1.Decides tried.result ∧ tried.requests = tries + 1) ∨
      (∀ k < maxAttempts, (attempts k).1.IsFailed) ∧
        (∃ final, tried.result = .error (.exhausted final)) ∧ tried.requests = maxAttempts := by
  simpa only [Nat.zero_add, retry] using
    @retryFrom_decided ε ν pause attempts maxAttempts 0 none

theorem retry_requests_le (maxAttempts : ℕ) :
    (retry pause attempts maxAttempts).requests ≤ maxAttempts := by
  rcases retry_decided pause attempts maxAttempts with ⟨tries, less, _, _, requests⟩ |
    ⟨_, _, requests⟩
  · exact requests.le.trans less
  · exact requests.le

/-- A value comes from one of the attempts made. -/
theorem retry_ok {maxAttempts : ℕ} {value : ν}
    (answered : (retry pause attempts maxAttempts).result = .ok value) :
    ∃ k < (retry pause attempts maxAttempts).requests, (attempts k).1 = .done value := by
  rcases retry_decided pause attempts maxAttempts with ⟨tries, _, _, decides, requests⟩ |
    ⟨_, ⟨final, exhausted⟩, _⟩
  · refine ⟨tries, requests.symm ▸ Nat.lt_succ_self tries, ?_⟩
    rw [answered] at decides
    cases attempt : (attempts tries).1 with
    | done other =>
        rw [attempt] at decides
        rw [Except.ok.inj decides]
    | refused error =>
        rw [attempt] at decides
        exact absurd decides (by simp [Attempt.Decides])
    | failed error =>
        rw [attempt] at decides
        exact decides.elim
  · rw [exhausted] at answered
    exact absurd answered (by simp)

theorem retry_time_le {limit : ℕ} (prompt : ∀ k, (attempts k).2 ≤ limit) (maxAttempts : ℕ) :
    (retry pause attempts maxAttempts).time ≤
      maxAttempts * limit + ∑ k ∈ Finset.range maxAttempts, pause k := by
  simpa only [Nat.zero_add, retry] using retryFrom_time prompt maxAttempts 0 none

end Retry

end EmsGateway.Library
