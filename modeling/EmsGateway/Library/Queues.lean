import Mathlib.Data.List.Perm.Basic

/-!
Work in progress. Several pieces of work, each with a queue it works off; and one queue whose
items are taken out at any place.
-/

namespace EmsGateway.Library

variable {α β : Type*}

section Works

variable {queue : β → List α} {property : α → Prop} {works : List β}

theorem forall_queued_append (holds : ∀ work ∈ works, ∀ item ∈ queue work, property item)
    {fresh : β} (freshHolds : ∀ item ∈ queue fresh, property item) :
    ∀ work ∈ works ++ [fresh], ∀ item ∈ queue work, property item := by
  intro work member
  rcases List.mem_append.mp member with earlier | new
  · exact holds work earlier
  · rw [List.mem_singleton.mp new]
    exact freshHolds

/-- Work that goes on only takes items off its queue. -/
theorem forall_queued_modify (holds : ∀ work ∈ works, ∀ item ∈ queue work, property item)
    {goOn : β → β} (fewer : ∀ work, ∀ item ∈ queue (goOn work), item ∈ queue work) (index : ℕ) :
    ∀ work ∈ works.modify index goOn, ∀ item ∈ queue work, property item := by
  intro work member item queued
  obtain ⟨i, bound, rfl⟩ := List.mem_iff_getElem.mp member
  rw [List.length_modify] at bound
  rw [List.getElem_modify] at queued
  split at queued
  · exact holds _ (List.getElem_mem bound) item (fewer _ item queued)
  · exact holds _ (List.getElem_mem bound) item queued

end Works

section Items

variable {items : List α} {index : ℕ} {taken : α}

theorem perm_cons_eraseIdx (found : items[index]? = some taken) :
    items.Perm (taken :: items.eraseIdx index) := by
  obtain ⟨bound, rfl⟩ := List.getElem?_eq_some_iff.mp found
  exact (List.getElem_cons_eraseIdx_perm bound).symm

theorem mem_eraseIdx_of_ne (found : items[index]? = some taken) {other : α}
    (member : other ∈ items) (different : other ≠ taken) : other ∈ items.eraseIdx index :=
  (List.mem_cons.mp ((perm_cons_eraseIdx found).mem_iff.mp member)).resolve_left different

end Items

end EmsGateway.Library
