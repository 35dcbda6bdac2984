import Mathlib

/-!
Numbers and clocks. `f64` arithmetic is exact rational arithmetic and `epsilon` is
`f64::EPSILON`. A `Duration` and an `Instant` count nanoseconds, as `std::time` does, and
`elapsed` saturates at zero.
-/

namespace EmsGateway

def epsilon : ℚ := 1 / 2 ^ 52

theorem epsilon_pos : 0 < epsilon := by
  norm_num [epsilon]

abbrev Duration := ℕ

abbrev Instant := ℕ

def nanosPerSec : ℕ := 1000000000

def Duration.fromSecs (seconds : ℕ) : Duration := seconds * nanosPerSec

def Duration.asSecs (duration : Duration) : ℚ := (duration : ℚ) / nanosPerSec

theorem Duration.asSecs_nonneg (duration : Duration) : 0 ≤ Duration.asSecs duration := by
  unfold Duration.asSecs
  positivity

@[simp] theorem Duration.asSecs_zero : Duration.asSecs 0 = 0 := by
  simp [Duration.asSecs]

theorem Duration.asSecs_fromSecs (seconds : ℕ) :
    Duration.asSecs (Duration.fromSecs seconds) = seconds := by
  have nonzero : (nanosPerSec : ℚ) ≠ 0 := by norm_num [nanosPerSec]
  unfold Duration.asSecs Duration.fromSecs
  push_cast
  field_simp

theorem Duration.asSecs_le_one {duration : Duration} (short : duration ≤ Duration.fromSecs 1) :
    Duration.asSecs duration ≤ 1 := by
  have bound : (duration : ℚ) ≤ nanosPerSec := by
    exact_mod_cast (by simpa [Duration.fromSecs] using short : duration ≤ nanosPerSec)
  have positive : (0 : ℚ) < nanosPerSec := by norm_num [nanosPerSec]
  exact (div_le_one positive).mpr bound

def elapsed (now received : Instant) : Duration := now - received

end EmsGateway
