import EmsGateway.Dispatch.Distribute
import EmsGateway.Dispatch.ExecuteCore

/-!
Which devices a south-side write path reaches: none that is in the locked set it was given,
whatever the devices answer.
-/

namespace EmsGateway.Dispatch

open EmsGateway.Asyncapi EmsGateway.Envelope

section Reach

variable {channels : DeviceChannels} {key : String} {south : South} {locked : Finset String}

theorem writeShare_started {deviceId : String} {share : ℚ} {write : Write}
    (started : write ∈ (writeShare channels key south deviceId share).started) :
    write = ⟨deviceId, key, .setpoint share⟩ := by
  unfold writeShare at started
  dsimp only at started
  split at started
  · simp [refuse] at started
  · exact List.mem_singleton.mp started
  · exact List.mem_singleton.mp started
  · simp [refuse] at started

theorem writeShares_started {shares : List (String × ℚ)} {write : Write}
    (started : write ∈ (writeShares channels key south shares).started) :
    ∃ share ∈ shares, write = ⟨share.1, key, .setpoint share.2⟩ := by
  induction shares with
  | nil => simp [writeShares] at started
  | cons share rest ih =>
      obtain ⟨deviceId, amount⟩ := share
      have later : write ∈ (writeShares channels key south rest).started →
          ∃ share ∈ (deviceId, amount) :: rest, write = ⟨share.1, key, .setpoint share.2⟩ := by
        intro inRest
        obtain ⟨share, member, same⟩ := ih inRest
        exact ⟨share, List.mem_cons_of_mem _ member, same⟩
      simp only [writeShares] at started
      split at started
      · rcases List.mem_append.mp started with first | inRest
        · exact ⟨_, List.mem_cons_self, writeShare_started first⟩
        · exact later inRest
      · exact ⟨_, List.mem_cons_self, writeShare_started started⟩

theorem writeOne_target {cap : String × String × ℚ} {write : Write}
    (started : write ∈ (writeOne channels south cap).started) : write.deviceId = cap.1 := by
  unfold writeOne at started
  dsimp only at started
  split at started
  · rw [List.mem_singleton.mp started]
  · simp [refuse] at started
  · simp [refuse] at started

theorem writeCaps_unlocked {caps : List (String × String × ℚ)} {write : Write}
    (started : write ∈ (writeCaps caps channels locked south).started) :
    write.deviceId ∉ locked := by
  obtain ⟨cap, kept, written⟩ := List.mem_flatMap.mp started
  rw [writeOne_target written]
  simpa using (List.mem_filter.mp kept).2

section Distribute

variable {binding : DistributeBinding} {target : ℚ} {siteId : String} {cache : InputCache}
  {now : Instant} {write : Write}

theorem dispatchDistribute_started
    (started : write ∈
      (dispatchDistribute binding target key siteId channels locked cache now south).started) :
    envelopeGuardConfig binding = none ∧ ∃ shares,
      computeShares binding target siteId cache now locked = .ok shares ∧
        ∃ share ∈ shares, write = ⟨share.1, key, .setpoint share.2⟩ := by
  unfold dispatchDistribute at started
  split at started
  · simp at started
  · rename_i plain
    refine ⟨Option.not_isSome_iff_eq_none.mp plain, ?_⟩
    split at started
    · simp [refuse] at started
    · rename_i shares computed
      have written : write ∈ (writeShares channels key south shares).started := by
        dsimp only at started
        split at started
        · exact started
        · split at started
          · exact started
          · exact started
      exact ⟨shares, computed, writeShares_started written⟩

theorem dispatchDistribute_unlocked
    (started : write ∈
      (dispatchDistribute binding target key siteId channels locked cache now south).started) :
    write.deviceId ∉ locked := by
  obtain ⟨_, shares, computed, share, member, rfl⟩ := dispatchDistribute_started started
  exact computeShares_unlocked computed member

end Distribute

theorem executeSetpoint_unlocked {binding : ProtocolBinding} {value : ℚ}
    {deviceId siteId : String} {cache : InputCache} {now : Instant} {write : Write}
    (unlocked : deviceId ∉ locked)
    (started : write ∈ (executeSetpoint binding value deviceId key siteId channels locked cache
      now south).started) :
    write.deviceId ∉ locked := by
  have direct : ∀ payload, write ∈ (attempt south ⟨deviceId, key, payload⟩).started →
      write.deviceId ∉ locked := by
    intro payload attempted
    rw [List.mem_singleton.mp attempted]
    exact unlocked
  unfold executeSetpoint at started
  split at started
  · exact direct _ started
  · exact direct _ started
  · split at started
    · exact direct _ started
    · simp [refuse] at started
  · exact direct _ started
  · exact writeCaps_unlocked started
  · exact dispatchDistribute_unlocked started
  · simp [refuse] at started

end Reach

end EmsGateway.Dispatch
