import Mathlib.Data.List.Basic
import Mathlib.Tactic.NormNum

/-!
Texts joined at a delimiter. Where the delimiter stands in neither first part, or in neither last
part, the joined text gives both parts back; decimal numerals hold digits only, and each is the
numeral of one number.
-/

namespace EmsGateway.Library

theorem delimited_inj {α : Type*} {mark : α} {first other rest otherRest : List α}
    (fresh : mark ∉ first) (otherFresh : mark ∉ other)
    (same : first ++ mark :: rest = other ++ mark :: otherRest) :
    first = other ∧ rest = otherRest := by
  induction first generalizing other with
  | nil =>
      cases other with
      | nil => exact ⟨rfl, (List.cons.inj same).2⟩
      | cons c other =>
          obtain ⟨head, _⟩ := List.cons.inj same
          exact absurd (head ▸ List.mem_cons_self) otherFresh
  | cons c first ih =>
      cases other with
      | nil =>
          obtain ⟨head, _⟩ := List.cons.inj same
          exact absurd (head ▸ List.mem_cons_self) fresh
      | cons d other =>
          obtain ⟨head, tail⟩ := List.cons.inj same
          obtain ⟨firsts, rests⟩ := ih (fun later => fresh (List.mem_cons_of_mem c later))
            (fun later => otherFresh (List.mem_cons_of_mem d later)) tail
          exact ⟨by rw [head, firsts], rests⟩

theorem delimited_inj_last {α : Type*} {mark : α} {first other rest otherRest : List α}
    (fresh : mark ∉ rest) (otherFresh : mark ∉ otherRest)
    (same : first ++ mark :: rest = other ++ mark :: otherRest) :
    first = other ∧ rest = otherRest := by
  have mirrored := congrArg List.reverse same
  simp only [List.reverse_append, List.reverse_cons, List.append_assoc,
    List.singleton_append] at mirrored
  obtain ⟨rests, firsts⟩ := delimited_inj (fun member => fresh (List.mem_reverse.mp member))
    (fun member => otherFresh (List.mem_reverse.mp member)) mirrored
  exact ⟨List.reverse_inj.mp firsts, List.reverse_inj.mp rests⟩

theorem toList_toString_inj {m n : ℕ} (same : (toString m).toList = (toString n).toList) :
    m = n := by
  have digits : Nat.toDigits 10 m = Nat.toDigits 10 n := by
    simpa only [Nat.toString_eq_repr, Nat.toList_repr] using same
  rw [← Nat.ofDigitChars_ten_toDigits (n := m), digits, Nat.ofDigitChars_ten_toDigits]

theorem notMem_toString {c : Char} (symbol : c.isDigit = false) (n : ℕ) :
    c ∉ (toString n).toList := by
  rw [Nat.toString_eq_repr, Nat.toList_repr]
  intro member
  have digit := Nat.isDigit_of_mem_toDigits (by norm_num) (le_refl 10) member
  rw [symbol] at digit
  exact absurd digit Bool.false_ne_true

end EmsGateway.Library
