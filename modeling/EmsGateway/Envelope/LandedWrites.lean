import EmsGateway.Dispatch.Distribute
import EmsGateway.Envelope.Task
import EmsGateway.Library.KeyedWrites
import EmsGateway.Library.Runs

/-!
Whether `last_written` is what each child last accepted. `write_shares` stops at the first write
that fails, so of a plan a prefix lands; a run keeps, beside the task, the share each child
really accepted last.
-/

namespace EmsGateway.Envelope

open EmsGateway.Asyncapi EmsGateway.Dispatch EmsGateway.Library

/-! How many of a batch's writes land -/

def landedCount (channels : DeviceChannels) (key : String) (south : South) : Shares → ℕ
  | [] => 0
  | (deviceId, share) :: rest =>
      if (writeShare channels key south deviceId share).result.isOk then
        landedCount channels key south rest + 1
      else 0

theorem writeShares_isOk (channels : DeviceChannels) (key : String) (south : South)
    (writes : Shares) :
    (writeShares channels key south writes).result.isOk = true ↔
      writes.length ≤ landedCount channels key south writes := by
  induction writes with
  | nil => simp [writeShares, landedCount, Except.isOk, Except.toBool]
  | cons write rest ih =>
      obtain ⟨deviceId, share⟩ := write
      simp only [writeShares, landedCount]
      cases (writeShare channels key south deviceId share).result with
      | ok done => simpa [Except.isOk, Except.toBool] using ih
      | error message => simp [Except.isOk, Except.toBool]

/-! One tick, of whose planned writes the first `landing` land -/

structure LandedRun where
  task : TaskState
  accepted : LastWritten

def LandedRun.initial : LandedRun := ⟨.initial, fun _ => none⟩

structure LandedTick where
  input : TaskInput
  landing : ℕ
  landedAt : Instant

def LandedRun.step (cfg : EnvelopeTaskConfig) (state : LandedRun) (tick : LandedTick) :
    LandedRun :=
  let ticked := tickOnce cfg state.task tick.input
  match ticked.plan with
  | none => ⟨ticked.state, state.accepted⟩
  | some plan =>
      { task :=
          if plan.writes.length ≤ tick.landing then ticked.state.landed plan tick.landedAt
          else ticked.state
        accepted := applyWrites state.accepted (plan.writes.take tick.landing) }

def taskAfterWrites (cfg : EnvelopeTaskConfig) (state : TaskState) (input : TaskInput)
    (channels : DeviceChannels) (south : South) (landedAt : Instant) : TaskState :=
  let ticked := tickOnce cfg state input
  match ticked.plan with
  | none => ticked.state
  | some plan =>
      match (writeShares channels cfg.channelKey south plan.writes).result with
      | .ok () => ticked.state.landed plan landedAt
      | .error _ => ticked.state

theorem taskAfterWrites_eq_step (cfg : EnvelopeTaskConfig) (state : LandedRun)
    (input : TaskInput) (channels : DeviceChannels) (south : South) (landedAt : Instant) :
    taskAfterWrites cfg state.task input channels south landedAt =
      (state.step cfg ⟨input,
        ((tickOnce cfg state.task input).plan.map fun plan =>
          landedCount channels cfg.channelKey south plan.writes).getD 0, landedAt⟩).task := by
  unfold taskAfterWrites LandedRun.step
  dsimp only
  cases (tickOnce cfg state.task input).plan with
  | none => rfl
  | some plan =>
      have lands := writeShares_isOk channels cfg.channelKey south plan.writes
      dsimp only [Option.map_some, Option.getD_some]
      cases written : (writeShares channels cfg.channelKey south plan.writes).result with
      | ok done =>
          rw [written] at lands
          rw [if_pos (lands.mp rfl)]
      | error message =>
          rw [written] at lands
          rw [if_neg fun all => absurd (lands.mpr all) Bool.false_ne_true]

/-! The condition -/

/-- The tick's writes all land, or not even the first one does, or none of them changes what its
child holds. -/
def CleanLanding (cfg : EnvelopeTaskConfig) (state : LandedRun) (tick : LandedTick) : Prop :=
  ∀ plan, (tickOnce cfg state.task tick.input).plan = some plan →
    plan.writes.length ≤ tick.landing ∨ tick.landing = 0 ∨
      ∀ write ∈ plan.writes, state.task.writes.lastWritten write.1 = some write.2

theorem plan_prefix_changes {writes : WriteState} {shares : Shares} {plan : Plan} {landing : ℕ}
    (planned : (writes.plan shares).2 = some plan) (someLand : landing ≠ 0)
    (changes : ¬∀ write ∈ plan.writes, writes.lastWritten write.1 = some write.2) :
    applyWrites writes.lastWritten (plan.writes.take landing) ≠ writes.lastWritten := by
  -- A plan that changes anything starts with a changed share, and no later write of the plan
  -- puts its child back to what it held.
  have made := (WriteState.plan_eq_some planned).1
  cases batch : (writes.ordered (writes.changed shares)).2 with
  | nil =>
      refine absurd ?_ changes
      intro write member
      rw [made, batch, List.nil_append] at member
      exact (WriteState.reasserts_held member).1
  | cons first rest =>
      obtain ⟨count, rfl⟩ := Nat.exists_eq_succ_of_ne_zero someLand
      have named : first.1 ∈ (plan.writes.take (count + 1)).map Prod.fst := by
        rw [made, batch, List.cons_append, List.take_succ_cons]
        exact List.mem_cons_self
      obtain ⟨value, member, final⟩ : ∃ value, (first.1, value) ∈ plan.writes.take (count + 1) ∧
          applyWrites writes.lastWritten (plan.writes.take (count + 1)) first.1 = some value :=
        applyWrites_of_mem named
      have inBatch : (first.1, value) ∈ (writes.ordered (writes.changed shares)).2 := by
        have sent := List.mem_of_mem_take member
        rw [made] at sent
        refine (List.mem_append.mp sent).resolve_right ?_
        intro reasserted
        refine (WriteState.reasserts_held reasserted).2 ?_
        rw [batch]
        exact List.mem_cons_self
      intro same
      rw [same] at final
      exact WriteState.mem_changed (WriteState.mem_ordered inBatch) final

theorem lastWritten_step (cfg : EnvelopeTaskConfig) (state : LandedRun) (tick : LandedTick)
    (before : state.task.writes.lastWritten = state.accepted) :
    (state.step cfg tick).task.writes.lastWritten = (state.step cfg tick).accepted ↔
      CleanLanding cfg state tick := by
  have kept := tickOnce_lastWritten cfg state.task tick.input
  unfold LandedRun.step CleanLanding
  dsimp only
  cases planIs : (tickOnce cfg state.task tick.input).plan with
  | none =>
      dsimp only
      rw [kept]
      simp [before]
  | some plan =>
      obtain ⟨steered, raw, d, shares, target, _, _, planned⟩ := tickOnce_planned planIs
      have sameLast := tickTarget_lastWritten target
      dsimp only
      simp only [Option.some.injEq, forall_eq']
      by_cases whole : plan.writes.length ≤ tick.landing
      · rw [if_pos whole, List.take_of_length_le whole, ← before, ← kept]
        exact iff_of_true rfl (.inl whole)
      · rw [if_neg whole, kept, ← before, ← sameLast]
        constructor
        · intro same
          by_contra neither
          simp only [not_or] at neither
          exact plan_prefix_changes planned neither.2.1 neither.2.2 same.symm
        · rintro (all | noneLands | reasserted)
          · exact absurd all whole
          · rw [noneLands, List.take_zero, applyWrites_nil]
          · refine (applyWrites_eq_self ?_).symm
            intro write member
            exact reasserted write (List.mem_of_mem_take member)

/-- After every tick of a run `last_written` is what each child last accepted, exactly when every
tick of the run lands cleanly. -/
theorem lastWritten_is_accepted_iff (cfg : EnvelopeTaskConfig) (ticks : List LandedTick) :
    Along (LandedRun.step cfg) (fun state tick => ∀ child,
      (state.step cfg tick).task.writes.lastWritten child = (state.step cfg tick).accepted child)
        .initial ticks ↔
      Along (LandedRun.step cfg) (CleanLanding cfg) .initial ticks := by
  simp only [← funext_iff]
  exact along_iff (fun state : LandedRun => state.task.writes.lastWritten = state.accepted)
    (lastWritten_step cfg) rfl

/-- The plan writes `r2` then `r1`; `r2` takes its 12 W, `r1` fails, and nothing is recorded. -/
theorem lastWritten_misses_partial_batch :
    ¬∀ (cfg : EnvelopeTaskConfig) (ticks : List LandedTick),
      Along (LandedRun.step cfg) (fun state tick => ∀ child,
        (state.step cfg tick).task.writes.lastWritten child =
          (state.step cfg tick).accepted child) .initial ticks := by
  intro claimed
  have after := (claimed
    ⟨"m", "set_active_power", none, .distribute (rackBinding [rack "r1" 100, rack "r2" 100])⟩
    [{ input := {
        dt := Duration.fromSecs 1
        now := 0
        siteId := "s1"
        cache := rackCache
        requested := fun _ => some 60
        locked := ∅ }
       landing := 1
       landedAt := 0 }]).1 "r2"
  revert after
  decide +kernel

end EmsGateway.Envelope
