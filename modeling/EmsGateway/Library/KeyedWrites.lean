import Mathlib.Logic.Function.Basic
import Mathlib.Data.List.Nodup
import Mathlib.Algebra.BigOperators.Group.Finset.Basic
import Mathlib.Tactic.Abel

/-!
A keyed store under a list of writes, applied in order: a later write to a key replaces an
earlier one, and a key that no write names keeps what it had. What a sum over keys gains from
distinct writes is the sum of what each write adds to its own key.
-/

namespace EmsGateway.Library

variable {κ ν : Type*} [DecidableEq κ]

def applyWrites (store : κ → Option ν) (writes : List (κ × ν)) : κ → Option ν :=
  writes.foldl (fun current write => Function.update current write.1 (some write.2)) store

@[simp] theorem applyWrites_nil (store : κ → Option ν) : applyWrites store [] = store := rfl

@[simp] theorem applyWrites_cons (store : κ → Option ν) (write : κ × ν) (rest : List (κ × ν)) :
    applyWrites store (write :: rest) =
      applyWrites (Function.update store write.1 (some write.2)) rest := rfl

theorem applyWrites_of_notMem {store : κ → Option ν} {writes : List (κ × ν)} {key : κ}
    (absent : key ∉ writes.map Prod.fst) : applyWrites store writes key = store key := by
  induction writes generalizing store with
  | nil => rfl
  | cons write rest ih =>
      rw [List.map_cons, List.mem_cons, not_or] at absent
      rw [applyWrites_cons, ih absent.2, Function.update_of_ne absent.1]

theorem applyWrites_of_mem {store : κ → Option ν} {writes : List (κ × ν)} {key : κ}
    (named : key ∈ writes.map Prod.fst) :
    ∃ value, (key, value) ∈ writes ∧ applyWrites store writes key = some value := by
  induction writes generalizing store with
  | nil => simp at named
  | cons write rest ih =>
      rw [applyWrites_cons]
      by_cases later : key ∈ rest.map Prod.fst
      · obtain ⟨value, member, final⟩ := ih later
        exact ⟨value, List.mem_cons_of_mem _ member, final⟩
      · have same : key = write.1 := (List.mem_cons.mp named).resolve_right later
        refine ⟨write.2, ?_, ?_⟩
        · rw [same]
          exact List.mem_cons_self
        · rw [applyWrites_of_notMem later, same, Function.update_self]

theorem applyWrites_found {store : κ → Option ν} {writes : List (κ × ν)} {key : κ} {value : ν}
    (found : applyWrites store writes key = some value) :
    store key = some value ∨ (key, value) ∈ writes := by
  by_cases named : key ∈ writes.map Prod.fst
  · obtain ⟨last, member, final⟩ : ∃ last, (key, last) ∈ writes ∧
        applyWrites store writes key = some last := applyWrites_of_mem named
    rw [found] at final
    exact .inr (Option.some.inj final ▸ member)
  · rw [applyWrites_of_notMem named] at found
    exact .inl found

theorem applyWrites_of_nodup {store : κ → Option ν} {writes : List (κ × ν)}
    (distinct : (writes.map Prod.fst).Nodup) {write : κ × ν} (member : write ∈ writes) :
    applyWrites store writes write.1 = some write.2 := by
  have named : write.1 ∈ writes.map Prod.fst := List.mem_map_of_mem member
  obtain ⟨value, other, final⟩ : ∃ value, (write.1, value) ∈ writes ∧
      applyWrites store writes write.1 = some value := applyWrites_of_mem named
  have same := List.inj_on_of_nodup_map distinct other member rfl
  rw [final, ← same]

theorem applyWrites_eq_self {store : κ → Option ν} {writes : List (κ × ν)}
    (held : ∀ write ∈ writes, store write.1 = some write.2) :
    applyWrites store writes = store := by
  induction writes with
  | nil => rfl
  | cons write rest ih =>
      rw [applyWrites_cons, ← held write List.mem_cons_self, Function.update_eq_self]
      exact ih fun later member => held later (List.mem_cons_of_mem _ member)

theorem sum_applyWrites {M : Type*} [AddCommGroup M] (measure : Option ν → M) (keys : Finset κ)
    {store : κ → Option ν} {writes : List (κ × ν)} (distinct : (writes.map Prod.fst).Nodup) :
    ∑ key ∈ keys, measure (applyWrites store writes key) =
      ∑ key ∈ keys, measure (store key) +
        ((writes.filter fun write => write.1 ∈ keys).map fun write =>
          measure (some write.2) - measure (store write.1)).sum := by
  induction writes generalizing store with
  | nil => simp
  | cons write rest ih =>
      obtain ⟨fresh, later⟩ := List.nodup_cons.mp distinct
      have apart : ∀ other ∈ rest.filter fun write => write.1 ∈ keys,
          measure (some other.2) - measure (Function.update store write.1 (some write.2) other.1) =
            measure (some other.2) - measure (store other.1) := by
        intro other member
        have named : other.1 ∈ rest.map Prod.fst :=
          List.mem_map_of_mem (List.mem_filter.mp member).1
        rw [Function.update_of_ne (ne_of_mem_of_not_mem named fresh)]
      rw [applyWrites_cons, ih later, List.map_congr_left apart]
      by_cases listed : write.1 ∈ keys
      · have others : ∀ key ∈ keys.erase write.1,
            measure (Function.update store write.1 (some write.2) key) = measure (store key) := by
          intro key member
          rw [Function.update_of_ne (Finset.ne_of_mem_erase member)]
        rw [← Finset.add_sum_erase _ _ listed, ← Finset.add_sum_erase _ _ listed,
          Finset.sum_congr rfl others, Function.update_self, List.filter_cons_of_pos (by simpa),
          List.map_cons, List.sum_cons]
        abel
      · have others : ∀ key ∈ keys,
            measure (Function.update store write.1 (some write.2) key) = measure (store key) := by
          intro key member
          rw [Function.update_of_ne (ne_of_mem_of_not_mem member listed)]
        rw [Finset.sum_congr rfl others, List.filter_cons_of_neg (by simpa)]

/-- An association list with one entry for each key is read the same way in every order. -/
theorem lookup_perm {entries others : List (κ × ν)} (same : others.Perm entries)
    (unique : (entries.map Prod.fst).Nodup) (key : κ) :
    others.lookup key = entries.lookup key := by
  induction same with
  | nil => rfl
  | cons entry _ ih =>
      rw [List.lookup_cons, List.lookup_cons, ih (List.nodup_cons.mp unique).2]
  | swap entry other rest =>
      obtain ⟨first, value⟩ := entry
      obtain ⟨second, otherValue⟩ := other
      simp only [List.map_cons, List.nodup_cons, List.mem_cons, not_or] at unique
      by_cases here : key = first
      · subst here
        rw [List.lookup_cons, List.lookup_cons, List.lookup_cons, beq_self_eq_true,
          beq_false_of_ne unique.1.1]
      · rw [List.lookup_cons, List.lookup_cons, List.lookup_cons, List.lookup_cons,
          beq_false_of_ne here]
  | trans before after ihBefore ihAfter =>
      have between := ((after.map Prod.fst).nodup_iff).mpr unique
      rw [ihBefore between, ihAfter unique]

end EmsGateway.Library
