import EmsGateway.Envelope.TaskCore
import EmsGateway.Envelope.Writes

/-!
What one tick of the rebalance task can do: it leaves `last_written` alone, and a plan it makes
comes from the shares of its target, overridden to zero while the DER must not energize.
-/

namespace EmsGateway.Envelope

open EmsGateway.Asyncapi EmsGateway.Dispatch

variable {cfg : EnvelopeTaskConfig} {state steered : TaskState} {input : TaskInput}

theorem tickTarget_lastWritten {raw : ℚ}
    (target : tickTarget cfg state input = some (steered, raw)) :
    steered.writes.lastWritten = state.writes.lastWritten := by
  unfold tickTarget at target
  dsimp only at target
  split at target
  · simp only [Option.some.injEq, Prod.mk.injEq] at target
    rw [← target.1]
  · simp only [Option.map_eq_some_iff, Prod.mk.injEq] at target
    obtain ⟨_, _, steeredIs, _⟩ := target
    rw [← steeredIs]

theorem tickOnce_lastWritten (cfg : EnvelopeTaskConfig) (state : TaskState) (input : TaskInput) :
    (tickOnce cfg state input).state.writes.lastWritten = state.writes.lastWritten := by
  unfold tickOnce
  split
  · rfl
  · rename_i steered raw target
    have kept := tickTarget_lastWritten target
    dsimp only
    split
    · split
      · exact kept
      · dsimp only
        rw [WriteState.plan_state, WriteState.ordered_lastWritten, kept]
    · exact kept

theorem tickOnce_planned {plan : Plan} (planned : (tickOnce cfg state input).plan = some plan) :
    ∃ steered raw d shares, tickTarget cfg state input = some (steered, raw) ∧
      cfg.binding = .distribute d ∧
      computeShares d (energizeTargetW raw input.siteId input.cache) input.siteId input.cache
        input.now input.locked = .ok shares ∧
      (steered.writes.plan shares).2 = some plan := by
  unfold tickOnce at planned
  split at planned
  · simp at planned
  · rename_i steered raw target
    dsimp only at planned
    split at planned
    · rename_i d binding
      split at planned
      · simp at planned
      · rename_i shares computed
        exact ⟨steered, raw, d, shares, target, binding, computed, planned⟩
    · simp at planned

end EmsGateway.Envelope
