import Mathlib

/-!
A wide word as a list of narrow ones, the high word first: `joinWords` shifts each one in from the
right, `splitWords` cuts them out again, and the two are inverse when the widths add up.
-/

namespace EmsGateway.Library

variable {wide narrow : ℕ}

def shiftIn (acc : BitVec wide) (word : BitVec narrow) : BitVec wide :=
  acc <<< narrow ||| word.setWidth wide

def joinWords (wide : ℕ) (words : List (BitVec narrow)) : BitVec wide :=
  words.foldl shiftIn 0

def splitWords (narrow : ℕ) : ℕ → BitVec wide → List (BitVec narrow)
  | 0, _ => []
  | count + 1, value => splitWords narrow count (value >>> narrow) ++ [value.setWidth narrow]

@[simp] theorem joinWords_append_singleton (words : List (BitVec narrow)) (last : BitVec narrow) :
    joinWords wide (words ++ [last]) = shiftIn (joinWords wide words) last := by
  simp [joinWords]

theorem shiftIn_shiftRight (value : BitVec wide) :
    shiftIn (value >>> narrow) (value.setWidth narrow) = value := by
  apply BitVec.eq_of_getLsbD_eq
  intro i bound
  by_cases low : i < narrow
  · simp [shiftIn, bound, low]
  · have sum : narrow + (i - narrow) = i := by omega
    simp [shiftIn, bound, low, sum]

theorem toNat_shiftIn {acc : BitVec wide} {word : BitVec narrow}
    (room : (acc.toNat + 1) * 2 ^ narrow ≤ 2 ^ wide) :
    (shiftIn acc word).toNat = acc.toNat * 2 ^ narrow + word.toNat := by
  have wordBound := word.isLt
  have shifted : acc.toNat <<< narrow % 2 ^ wide = 2 ^ narrow * acc.toNat := by
    rw [Nat.shiftLeft_eq, Nat.mod_eq_of_lt (by nlinarith), mul_comm]
  have fitted : word.toNat % 2 ^ wide = word.toNat := by
    apply Nat.mod_eq_of_lt
    nlinarith
  simp only [shiftIn, BitVec.toNat_or, BitVec.toNat_shiftLeft, BitVec.toNat_setWidth]
  rw [shifted, fitted, ← Nat.two_pow_add_eq_or_of_lt wordBound, mul_comm]

theorem room_of_lt {acc : BitVec wide} {bits : ℕ} (bound : acc.toNat < 2 ^ bits)
    (room : bits + narrow ≤ wide) : (acc.toNat + 1) * 2 ^ narrow ≤ 2 ^ wide := by
  calc (acc.toNat + 1) * 2 ^ narrow
      ≤ 2 ^ bits * 2 ^ narrow := Nat.mul_le_mul_right _ bound
    _ = 2 ^ (bits + narrow) := (pow_add ..).symm
    _ ≤ 2 ^ wide := Nat.pow_le_pow_right (by decide) room

theorem toNat_joinWords_lt {words : List (BitVec narrow)} (room : narrow * words.length ≤ wide) :
    (joinWords wide words).toNat < 2 ^ (narrow * words.length) := by
  induction words using List.reverseRecOn with
  | nil => simp [joinWords]
  | append_singleton words last ih =>
      have grows : narrow * (words ++ [last]).length = narrow * words.length + narrow := by
        simp [Nat.mul_add]
      rw [grows] at room ⊢
      have bound := ih (by omega)
      have wordBound := last.isLt
      rw [joinWords_append_singleton, toNat_shiftIn (room_of_lt bound room), pow_add]
      nlinarith

@[simp] theorem length_splitWords (count : ℕ) (value : BitVec wide) :
    (splitWords narrow count value).length = count := by
  induction count generalizing value with
  | zero => rfl
  | succ count ih => simp [splitWords, ih]

theorem joinWords_splitWords {count : ℕ} {value : BitVec wide}
    (bound : value.toNat < 2 ^ (narrow * count)) :
    joinWords wide (splitWords narrow count value) = value := by
  induction count generalizing value with
  | zero =>
      have zero : value.toNat = 0 := by simpa using bound
      simpa [joinWords, splitWords] using (BitVec.eq_of_toNat_eq (by simpa using zero)).symm
  | succ count ih =>
      have smaller : (value >>> narrow).toNat < 2 ^ (narrow * count) := by
        rw [BitVec.toNat_ushiftRight, Nat.shiftRight_eq_div_pow]
        apply Nat.div_lt_of_lt_mul
        rwa [← pow_add, Nat.add_comm, ← Nat.mul_succ]
      rw [splitWords, joinWords_append_singleton, ih smaller, shiftIn_shiftRight]

theorem splitWords_joinWords {words : List (BitVec narrow)} {count : ℕ}
    (length : words.length = count) (room : narrow * count ≤ wide) :
    splitWords narrow count (joinWords wide words) = words := by
  subst length
  induction words using List.reverseRecOn with
  | nil => rfl
  | append_singleton words last ih =>
      have grows : narrow * (words ++ [last]).length = narrow * words.length + narrow := by
        simp [Nat.mul_add]
      rw [grows] at room
      have bound : (joinWords wide words).toNat < 2 ^ (narrow * words.length) :=
        toNat_joinWords_lt (by omega)
      have value : (shiftIn (joinWords wide words) last).toNat =
          (joinWords wide words).toNat * 2 ^ narrow + last.toNat :=
        toNat_shiftIn (room_of_lt bound room)
      have high : shiftIn (joinWords wide words) last >>> narrow = joinWords wide words := by
        apply BitVec.eq_of_toNat_eq
        rw [BitVec.toNat_ushiftRight, Nat.shiftRight_eq_div_pow, value, mul_comm,
          Nat.mul_add_div (by positivity), Nat.div_eq_of_lt last.isLt, add_zero]
      have low : (shiftIn (joinWords wide words) last).setWidth narrow = last := by
        apply BitVec.eq_of_toNat_eq
        rw [BitVec.toNat_setWidth, value, mul_comm, Nat.mul_add_mod, Nat.mod_eq_of_lt last.isLt]
      rw [List.length_append, List.length_singleton, joinWords_append_singleton, splitWords,
        high, low, ih (by omega)]

end EmsGateway.Library
