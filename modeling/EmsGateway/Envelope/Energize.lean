import EmsGateway.Dispatch.Execute
import EmsGateway.Dispatch.Requested
import EmsGateway.Envelope.Task
import EmsGateway.Library.Queues
import EmsGateway.Library.Runs

/-!
Cease-to-energize across a site's write paths. The rebalance task of any module and commands on
any module read the cache when they make a batch; what a batch still has to write is kept beside
the cache, and each write starts in a step of its own, so the cache may change in between. The
site distribution's commands come in through the same handler as an operator's.
-/

namespace EmsGateway.Envelope

open EmsGateway.Asyncapi EmsGateway.Dispatch EmsGateway.Library

structure EnergizeSite where
  cache : InputCache
  batches : List (List Write)

inductive EnergizeStep where
  | observe (cache : InputCache)
  | rebalance (cfg : EnvelopeTaskConfig) (state : TaskState) (input : TaskInput)
      (channels : DeviceChannels) (south : South)
  | command (channels : DeviceChannels) (locked : Finset String) (accepts : Broker)
      (requested : Requested) (topic : String) (frame : Option CommandFrame) (now : Instant)
      (south : South)
  | write (index : ℕ)

def rebalanceBatch (siteId : String) (cache : InputCache) (cfg : EnvelopeTaskConfig)
    (state : TaskState) (input : TaskInput) (channels : DeviceChannels) (south : South) :
    List Write :=
  match (tickOnce cfg state { input with siteId := siteId, cache := cache }).plan with
  | some plan => (writeShares channels cfg.channelKey south plan.writes).started
  | none => []

def moduleCommandBatch (begun : Begun) (cache : InputCache) (now : Instant) (south : South) :
    List Write :=
  match begun with
  | .settled _ => []
  | .writing pending =>
      match pending.binding with
      | .distribute _ => (pending.execute cache now south).started
      | _ => []

namespace EnergizeSite

def step (siteId : String) (site : EnergizeSite) (step : EnergizeStep) : EnergizeSite :=
  match step with
  | .observe cache => { site with cache := cache }
  | .rebalance cfg state input channels south =>
      { site with batches := site.batches ++
          [rebalanceBatch siteId site.cache cfg state input channels south] }
  | .command channels locked accepts requested topic frame now south =>
      let begun := (beginCommand ⟨siteId, channels, locked⟩ accepts requested topic frame).2
      { site with batches := site.batches ++ [moduleCommandBatch begun site.cache now south] }
  | .write index => { site with batches := site.batches.modify index List.tail }

def starts (site : EnergizeSite) (step : EnergizeStep) : Option Write :=
  match step with
  | .write index => site.batches[index]?.bind List.head?
  | _ => none

end EnergizeSite

def negligible (write : Write) : Bool :=
  match write.payload with
  | .setpoint value => decide (|value| ≤ epsilon)
  | .bit _ => false

def asksNothing (begun : Begun) : Bool :=
  match begun with
  | .settled _ => true
  | .writing pending =>
      match pending.binding with
      | .distribute d => (envelopeGuardConfig d).isSome || decide (|pending.value| ≤ epsilon)
      | _ => true

/-- The order to cease does not come in while a batch has still a share to write, and no command
asks a plain module for power while it stands. -/
def HonoursCease (siteId : String) (site : EnergizeSite) (step : EnergizeStep) : Prop :=
  match step with
  | .observe cache => mustCease siteId site.cache = false → mustCease siteId cache = true →
      ∀ batch ∈ site.batches, ∀ write ∈ batch, negligible write = true
  | .command channels locked accepts requested topic frame _ _ =>
      mustCease siteId site.cache = true →
        asksNothing (beginCommand ⟨siteId, channels, locked⟩ accepts requested topic frame).2 = true
  | _ => True

instance (siteId : String) (site : EnergizeSite) (step : EnergizeStep) :
    Decidable (HonoursCease siteId site step) :=
  match step with
  | .observe _ => inferInstanceAs (Decidable (_ → _ → _))
  | .command _ _ _ _ _ _ _ _ => inferInstanceAs (Decidable (_ → _))
  | .rebalance _ _ _ _ _ => .isTrue trivial
  | .write _ => .isTrue trivial

theorem rebalanceBatch_negligible {siteId : String} {cache : InputCache}
    {cfg : EnvelopeTaskConfig} {state : TaskState} {input : TaskInput}
    {channels : DeviceChannels} {south : South} (ceases : mustCease siteId cache = true)
    {write : Write}
    (queued : write ∈ rebalanceBatch siteId cache cfg state input channels south) :
    negligible write = true := by
  unfold rebalanceBatch at queued
  split at queued
  · rename_i plan planned
    obtain ⟨share, member, rfl⟩ := writeShares_started queued
    obtain ⟨steered, raw, d, shares, _, _, computed, made⟩ := tickOnce_planned planned
    rw [energizeTargetW, if_pos ceases] at computed
    have zero : ∀ share ∈ shares, share.2 = 0 := by
      intro share present
      exact computeShares_of_small (by simpa using epsilon_pos.le) computed present
    exact decide_eq_true (WriteState.plan_of_zero_shares zero made member)
  · simp at queued

theorem moduleCommandBatch_negligible {begun : Begun} {cache : InputCache} {now : Instant}
    {south : South} (asks : asksNothing begun = true) {write : Write}
    (queued : write ∈ moduleCommandBatch begun cache now south) : negligible write = true := by
  unfold moduleCommandBatch at queued
  split at queued
  · simp at queued
  · rename_i pending
    split at queued
    · rename_i d binding
      simp only [Pending.execute, executeSetpoint, binding] at queued
      obtain ⟨plain, shares, computed, share, member, rfl⟩ := dispatchDistribute_started queued
      have small : |pending.value| ≤ epsilon := by
        simpa [asksNothing, binding, plain] using asks
      have zero := computeShares_of_small small computed member
      refine decide_eq_true ?_
      rw [zero, abs_zero]
      exact epsilon_pos.le
    · simp at queued

def Ceasing (siteId : String) (site : EnergizeSite) : Prop :=
  mustCease siteId site.cache = true → ∀ batch ∈ site.batches, ∀ write ∈ batch,
    negligible write = true

theorem Ceasing.append {siteId : String} {site : EnergizeSite} (ceasing : Ceasing siteId site)
    {batch : List Write} (fresh : mustCease siteId site.cache = true →
      ∀ write ∈ batch, negligible write = true) :
    Ceasing siteId { site with batches := site.batches ++ [batch] } := by
  intro ceases
  exact forall_queued_append (ceasing ceases) (fresh ceases)

theorem Ceasing.step {siteId : String} (site : EnergizeSite) (step : EnergizeStep)
    (ceasing : Ceasing siteId site) (honours : HonoursCease siteId site step) :
    Ceasing siteId (site.step siteId step) := by
  cases step with
  | observe cache =>
      intro ceases
      by_cases before : mustCease siteId site.cache = true
      · exact ceasing before
      · exact honours (Bool.eq_false_of_not_eq_true before) ceases
  | rebalance cfg state input channels south =>
      exact ceasing.append fun ceases write queued => rebalanceBatch_negligible ceases queued
  | command channels locked accepts requested topic frame now south =>
      exact ceasing.append fun ceases write queued =>
        moduleCommandBatch_negligible (honours ceases) queued
  | write index =>
      intro ceases
      refine forall_queued_modify (ceasing ceases) ?_ index
      intro batch write queued
      exact List.mem_of_mem_tail queued

/-- While the cache says the DER must not energize, no share above `epsilon` starts on its way
to a rack, in a run that honours the order. -/
theorem cease_reaches_every_write {siteId : String} {cache : InputCache}
    {steps : List EnergizeStep}
    (honours : Along (EnergizeSite.step siteId) (HonoursCease siteId) ⟨cache, []⟩ steps) :
    Along (EnergizeSite.step siteId) (fun site step => mustCease siteId site.cache = true →
      ∀ write, site.starts step = some write → negligible write = true) ⟨cache, []⟩ steps := by
  refine Along.of_invariant (Ceasing siteId) Ceasing.step ?_ ?_ honours
  · intro site step ceasing _ ceases write starts
    cases step with
    | write index =>
        obtain ⟨batch, found, first⟩ := Option.bind_eq_some_iff.mp starts
        exact ceasing ceases batch (List.mem_of_getElem? found) write (List.mem_of_head? first)
    | _ => simp [EnergizeSite.starts] at starts
  · intro _ batch member
    exact absurd member List.not_mem_nil

/-! A plain module `m` over racks `r1` and `r2`. -/

def plainModule : ProtocolBinding := .distribute (rackBinding [rack "r1" 100, rack "r2" 100])

def plainChannels : DeviceChannels := fun deviceId =>
  some fun _ => some (if deviceId = "m" then plainModule else .modbusTcp)

def energizeCache (energize : Bool) : InputCache := fun topic =>
  if topic = energizeEnabledTopic "s1" then some (.bool energize, 0) else rackCache topic

def plainTick (held : LastWritten) : EnergizeStep :=
  .rebalance ⟨"m", "set_active_power", none, plainModule⟩ ⟨none, ⟨held, false, .new⟩⟩
    { dt := Duration.fromSecs 1
      now := 0
      siteId := "s1"
      cache := fun _ => none
      requested := fun _ => some 60
      locked := ∅ }
    plainChannels (fun _ => .ok ())

def plainCommand (value : ℚ) : EnergizeStep :=
  .command plainChannels ∅ (fun _ => true) (fun _ => none)
    "sites/s1/devices/m/commands/set/active_power/watts" (some ⟨value, "c1"⟩) 0 (fun _ => .ok ())

theorem cease_reaches_racks_in_use :
    Along (EnergizeSite.step "s1") (fun site step => mustCease "s1" site.cache = true →
      ∀ write, site.starts step = some write → negligible write = true)
        ⟨energizeCache true, []⟩
        [plainTick fun _ => none, .write 0, .write 0, .observe (energizeCache false),
          plainTick fun _ => some 30, plainCommand 0, .write 1, .write 2, .write 1, .write 2] :=
  cease_reaches_every_write (by decide +kernel)

/-- A command of 60 W on the module goes out although the DER must not energize. -/
theorem cease_missed_by_command :
    ¬∀ (siteId : String) (cache : InputCache) (steps : List EnergizeStep),
      Along (EnergizeSite.step siteId) (fun site step => mustCease siteId site.cache = true →
        ∀ write, site.starts step = some write → negligible write = true) ⟨cache, []⟩ steps := by
  intro claimed
  have written := (claimed "s1" (energizeCache false) [plainCommand 60, .write 0]).2.1
    (by decide +kernel) ⟨"r1", "set_active_power", .setpoint 48⟩ (by decide +kernel)
  revert written
  decide +kernel

end EmsGateway.Envelope
