import EmsGateway.Envelope.Writes
import EmsGateway.Library.Runs

/-!
A share handoff over a whole run of plans: when shrinking and growing shares may go out
together, and when the approach hold that a handoff puts on the POI servo lifts again. A plan's
writes land as a whole or are not recorded; a reading is taken with its receipt time.
-/

namespace EmsGateway.Envelope

open EmsGateway.Library

namespace WriteState

def holdsBack (state : WriteState) (shares : Shares) : Bool :=
  !(state.changed shares).isEmpty &&
    (handoffBatch (reductionsFirst (state.changed shares) state.lastWritten) state.lastWritten
      state.deferredGrowth).2

theorem plan_deferredGrowth (state : WriteState) (shares : Shares) :
    (state.plan shares).1.deferredGrowth =
      if state.changed shares = [] then state.deferredGrowth else state.holdsBack shares := by
  rw [plan_state, ordered, holdsBack]
  by_cases unchanged : state.changed shares = []
  · simp [unchanged]
  · simp [unchanged]

theorem plan_handoff (state : WriteState) (shares : Shares) :
    (state.plan shares).1.gate.handoff =
      if state.holdsBack shares then .deferred else state.gate.handoff := by
  rw [plan_state, ordered, holdsBack]
  by_cases unchanged : state.changed shares = []
  · simp [unchanged]
  · have filled : (state.changed shares).isEmpty = false := by simpa using unchanged
    simp only [filled, Bool.false_eq_true, if_false, Bool.not_false, Bool.true_and]
    split
    · rfl
    · rfl

theorem holdsBack_eq_false_of_deferred {state : WriteState} (shares : Shares)
    (deferred : state.deferredGrowth = true) : state.holdsBack shares = false := by
  simp [holdsBack, handoffBatch, deferred]

def afterPlan (state : WriteState) (shares : Shares) (landedAt : Option Instant) : WriteState :=
  match (state.plan shares).2, landedAt with
  | some plan, some now => (state.plan shares).1.landed plan now
  | _, _ => (state.plan shares).1

@[simp] theorem afterPlan_deferredGrowth (state : WriteState) (shares : Shares)
    (landedAt : Option Instant) :
    (state.afterPlan shares landedAt).deferredGrowth = (state.plan shares).1.deferredGrowth := by
  unfold afterPlan
  split
  · rfl
  · rfl

end WriteState

/-! Shrinks and growth in one batch -/

/-- The plan's writes hold a child that shrinks by more than the fraction of what it last got
and a child that grows. -/
def SendsMixed (state : WriteState) (shares : Shares) : Prop :=
  ∃ plan, (state.plan shares).2 = some plan ∧
    (∃ write ∈ plan.writes, materialShrink state.lastWritten write = true) ∧
      ∃ write ∈ plan.writes, 0 < growth state.lastWritten write

structure PlanTick where
  shares : Shares
  landedAt : Option Instant

/-- `heldBack` says of the preceding plan whether it held growth back. -/
structure HandoffRun where
  writes : WriteState
  heldBack : Bool

namespace HandoffRun

def initial : HandoffRun := ⟨.empty, false⟩

def step (run : HandoffRun) (tick : PlanTick) : HandoffRun :=
  ⟨run.writes.afterPlan tick.shares tick.landedAt, run.writes.holdsBack tick.shares⟩

end HandoffRun

theorem growth_reassert {state : WriteState} {ids : List String} {writes : Shares}
    {share : String × ℚ} (member : share ∈ state.reasserts ids writes) :
    growth state.lastWritten share = 0 := by
  unfold growth lastMagnitude
  rw [(WriteState.reasserts_held member).1]
  exact sub_self _

theorem deferredGrowth_of_sendsMixed {state : WriteState} {shares : Shares}
    (mixed : SendsMixed state shares) : state.deferredGrowth = true := by
  -- Writes that move a share come from the batch, and a batch that keeps its growth while
  -- something materially shrinks was made with the flag set.
  obtain ⟨plan, planned, ⟨shrinking, shrinkSent, shrinks⟩, growing, growSent, grows⟩ := mixed
  rw [(WriteState.plan_eq_some planned).1] at shrinkSent growSent
  have inBatch : ∀ write, growth state.lastWritten write ≠ 0 →
      write ∈ (state.ordered (state.changed shares)).2 ++ state.reasserts
        (shares.map Prod.fst) (state.ordered (state.changed shares)).2 →
      write ∈ (state.ordered (state.changed shares)).2 := by
    intro write moves sent
    exact (List.mem_append.mp sent).resolve_right fun reasserted =>
      moves (growth_reassert reasserted)
  have shrinkIn := inBatch _ (growth_neg_of_materialShrink shrinks).ne shrinkSent
  have growIn := inBatch _ grows.ne' growSent
  unfold WriteState.ordered at shrinkIn growIn
  split at shrinkIn
  · exact absurd shrinkIn List.not_mem_nil
  · rename_i changes
    rw [if_neg changes] at growIn
    by_contra notDeferred
    unfold handoffBatch at growIn
    dsimp only at growIn
    split at growIn
    · have shrunk := of_decide_eq_true (List.mem_filter.mp growIn).2
      exact absurd grows (not_lt.mpr shrunk.le)
    · rename_i kept
      refine kept ?_
      simp only [Bool.and_eq_true, List.any_eq_true, Bool.not_eq_true']
      exact ⟨⟨⟨shrinking, mem_handoffBatch shrinkIn, shrinks⟩,
        growing, growIn, decide_eq_true grows⟩, Bool.eq_false_of_not_eq_true notDeferred⟩

def ChangesWhileDeferred (run : HandoffRun) (tick : PlanTick) : Prop :=
  run.writes.deferredGrowth = true → run.writes.changed tick.shares ≠ []

instance (run : HandoffRun) (tick : PlanTick) : Decidable (ChangesWhileDeferred run tick) :=
  inferInstanceAs (Decidable (_ → _))

theorem deferredGrowth_step {run : HandoffRun} {tick : PlanTick}
    (changes : ChangesWhileDeferred run tick) :
    (run.step tick).writes.deferredGrowth = (run.step tick).heldBack := by
  rw [HandoffRun.step, WriteState.afterPlan_deferredGrowth, WriteState.plan_deferredGrowth]
  split
  · rename_i unchanged
    have clear : run.writes.deferredGrowth = false := by
      by_contra set
      exact changes (Bool.eq_true_of_not_eq_false set) unchanged
    simp [clear, WriteState.holdsBack, unchanged]
  · rfl

/-- In a run whose ticks change some share whenever the flag is set, a material shrink and a
growth go out together only after a plan that held growth back; and no two consecutive plans
hold it back. -/
theorem growth_waits_one_tick {ticks : List PlanTick}
    (changes : Along HandoffRun.step ChangesWhileDeferred .initial ticks) :
    Along HandoffRun.step (fun run tick =>
      (SendsMixed run.writes tick.shares → run.heldBack = true) ∧
        ¬(run.heldBack = true ∧ run.writes.holdsBack tick.shares = true)) .initial ticks := by
  refine Along.of_invariant (fun run => run.writes.deferredGrowth = run.heldBack)
    ?_ ?_ rfl changes
  · intro run tick _ holds
    exact deferredGrowth_step holds
  · intro run tick flag _
    refine ⟨?_, ?_⟩
    · intro mixed
      rw [← flag]
      exact deferredGrowth_of_sendsMixed mixed
    · rintro ⟨held, again⟩
      rw [WriteState.holdsBack_eq_false_of_deferred _ (flag.trans held)] at again
      exact absurd again Bool.false_ne_true

/-! Two racks, `a` and `b`. -/

def twoRacks (a b : ℚ) : Shares := [("a", a), ("b", b)]

def landingTick (a b : ℚ) : PlanTick := ⟨twoRacks a b, some 0⟩

theorem growth_waits_in_handoff :
    Along HandoffRun.step (fun run tick =>
      (SendsMixed run.writes tick.shares → run.heldBack = true) ∧
        ¬(run.heldBack = true ∧ run.writes.holdsBack tick.shares = true)) .initial
          [landingTick 100 50, landingTick 50 100, landingTick 40 100] :=
  growth_waits_one_tick (by decide +kernel)

/-- The second tick holds growth back and the third changes nothing, so the flag is still set
at the fourth, whose shrink and growth go out together. -/
theorem mixed_batch_after_unchanged_tick :
    ¬∀ ticks : List PlanTick, Along HandoffRun.step (fun run tick =>
      (SendsMixed run.writes tick.shares → run.heldBack = true) ∧
        ¬(run.heldBack = true ∧ run.writes.holdsBack tick.shares = true)) .initial ticks := by
  intro claimed
  have last := (claimed [landingTick 100 50, landingTick 50 100, landingTick 50 50,
    landingTick 0 100]).2.2.2.1.1
  have waited := last ⟨⟨[("a", 0), ("b", 100)], true⟩, by decide +kernel,
    ⟨("a", 0), by decide +kernel, by decide +kernel⟩,
    ("b", 100), by decide +kernel, by decide +kernel⟩
  revert waited
  decide +kernel

/-! The approach hold -/

inductive GateStep where
  | take (receivedAt : Instant)
  | plan (shares : Shares) (landedAt : Option Instant)

def GateStep.landedAt : GateStep → Option Instant
  | .take _ => none
  | .plan _ landedAt => landedAt

namespace WriteState

def taken (state : WriteState) (receivedAt : Instant) : WriteState :=
  { state with gate := (state.gate.take receivedAt).1 }

def gateStep (state : WriteState) : GateStep → WriteState
  | .take receivedAt => state.taken receivedAt
  | .plan shares landedAt => state.afterPlan shares landedAt

theorem changed_eq_nil_of_plan_eq_none {state : WriteState} {shares : Shares}
    (unplanned : (state.plan shares).2 = none) : state.changed shares = [] := by
  unfold plan at unplanned
  dsimp only at unplanned
  split at unplanned
  · rename_i empty
    rw [List.isEmpty_iff, List.append_eq_nil_iff] at empty
    exact ordered_eq_nil.mp empty.1
  · exact absurd unplanned (by simp)

theorem afterPlan_handoff {state : WriteState} {shares : Shares} (now : Instant)
    (sends : state.holdsBack shares = false) :
    (state.afterPlan shares (some now)).gate.handoff =
      if state.gate.handoff = .deferred ∧ state.deferredGrowth = true ∧
          state.changed shares ≠ [] then .growthWritten now 0
      else state.gate.handoff := by
  have kept : (state.plan shares).1.gate.handoff = state.gate.handoff := by
    rw [plan_handoff, sends]
    rfl
  unfold afterPlan
  cases planned : (state.plan shares).2 with
  | none =>
      have unchanged := changed_eq_nil_of_plan_eq_none planned
      simp [kept, unchanged]
  | some plan =>
      have completes := (plan_eq_some planned).2
      rw [plan_deferredGrowth, sends] at completes
      by_cases unchanged : state.changed shares = []
      · simp [landed, completes, kept, unchanged]
      · by_cases flag : state.deferredGrowth = true
        · by_cases deferred : state.gate.handoff = .deferred
          · simp [landed, PoiGate.growthWritten, completes, kept, unchanged, flag, deferred]
          · simp [landed, PoiGate.growthWritten, completes, kept, flag, deferred]
        · simp [landed, completes, kept, flag]

def takes (state : WriteState) (readings : List Instant) : WriteState :=
  run taken state readings

@[simp] theorem takes_deferredGrowth (state : WriteState) (readings : List Instant) :
    (state.takes readings).deferredGrowth = state.deferredGrowth := by
  induction readings generalizing state with
  | nil => rfl
  | cons reading rest ih => exact ih (state.taken reading)

@[simp] theorem takes_lastWritten (state : WriteState) (readings : List Instant) :
    (state.takes readings).lastWritten = state.lastWritten := by
  induction readings generalizing state with
  | nil => rfl
  | cons reading rest ih => exact ih (state.taken reading)

end WriteState

namespace PoiGate

theorem progress_deferred {handoff : Handoff} {receivedAt : Instant} {fresh : Bool} :
    progress handoff receivedAt fresh = .deferred ↔ handoff = .deferred := by
  unfold progress
  split
  · split
    · split
      · simp
      · simp
    · simp
  · rfl

def Counting (latest : Instant) (count : ℕ) (handoff : Handoff) : Prop :=
  handoff = .idle ∨ ∃ since seen, handoff = .growthWritten since seen ∧ since ≤ latest ∧
    count ≤ seen

theorem Counting.progress {latest : Instant} {count : ℕ} {handoff : Handoff}
    (counting : Counting latest count handoff) (receivedAt : Instant) (fresh : Bool) :
    Counting latest count (progress handoff receivedAt fresh) := by
  rcases counting with rfl | ⟨since, seen, rfl, early, enough⟩
  · exact .inl rfl
  · unfold PoiGate.progress
    dsimp only
    split
    · split
      · exact .inl rfl
      · exact .inr ⟨since, seen + 1, rfl, early, by omega⟩
    · exact .inr ⟨since, seen, rfl, early, enough⟩

theorem Counting.progress_fresh {latest receivedAt : Instant} {count : ℕ} {handoff : Handoff}
    (counting : Counting latest count handoff) (later : latest < receivedAt) :
    (readingsAfterGrowth ≤ count + 1 → PoiGate.progress handoff receivedAt true = .idle) ∧
      Counting latest (count + 1) (PoiGate.progress handoff receivedAt true) := by
  rcases counting with rfl | ⟨since, seen, rfl, early, enough⟩
  · exact ⟨fun _ => rfl, .inl rfl⟩
  · have counts : True ∧ since < receivedAt := ⟨trivial, lt_of_le_of_lt early later⟩
    unfold PoiGate.progress
    simp only [counts, and_self, if_true]
    refine ⟨?_, ?_⟩
    · intro due
      rw [if_pos (by omega)]
    · split
      · exact .inl rfl
      · exact .inr ⟨since, seen + 1, rfl, early, by omega⟩

end PoiGate

namespace WriteState

@[simp] theorem taken_handoff (state : WriteState) (receivedAt : Instant) :
    (state.taken receivedAt).gate.handoff = PoiGate.progress state.gate.handoff receivedAt
      (decide (state.gate.lastUsed ≠ some receivedAt)) := rfl

theorem takes_counting {state : WriteState} {latest : Instant} {count : ℕ}
    (counting : PoiGate.Counting latest count state.gate.handoff) (readings : List Instant) :
    PoiGate.Counting latest count (state.takes readings).gate.handoff := by
  induction readings generalizing state with
  | nil => exact counting
  | cons reading rest ih => exact ih (counting.progress reading _)

theorem takes_deferred {state : WriteState} (readings : List Instant) :
    (state.takes readings).gate.handoff = .deferred ↔ state.gate.handoff = .deferred := by
  induction readings generalizing state with
  | nil => exact Iff.rfl
  | cons reading rest ih =>
      have later : ((state.taken reading).takes rest).gate.handoff = .deferred ↔
          (state.taken reading).gate.handoff = .deferred := ih
      exact later.trans PoiGate.progress_deferred

def Gated (latest : Instant) (state : WriteState) : Prop :=
  state.gate.handoff = .deferred ∨ PoiGate.Counting latest 0 state.gate.handoff

theorem Gated.gateStep {latest : Instant} {state : WriteState} (before : Gated latest state)
    (step : GateStep) (early : ∀ now, step.landedAt = some now → now ≤ latest) :
    Gated latest (state.gateStep step) := by
  cases step with
  | take receivedAt =>
      rcases before with deferred | counting
      · exact .inl (PoiGate.progress_deferred.mpr deferred)
      · exact .inr (counting.progress receivedAt _)
  | plan shares landedAt =>
      have planned : Gated latest (state.plan shares).1 := by
        rw [Gated, plan_handoff]
        split
        · exact .inl rfl
        · exact before
      unfold WriteState.gateStep afterPlan
      dsimp only
      split
      · rename_i now _
        unfold Gated landed PoiGate.growthWritten
        dsimp only
        split
        · split
          · exact .inr (.inr ⟨now, 0, rfl, early now rfl, le_rfl⟩)
          · exact planned
        · exact planned
      · exact planned

end WriteState

/-- What follows a reachable state: two plans that land, then two readings, with any other
readings taken in between. -/
structure Continuation where
  firstShares : Shares
  firstLandedAt : Instant
  between : List Instant
  secondShares : Shares
  secondLandedAt : Instant
  waiting : List Instant
  firstReading : Instant
  repeated : List Instant
  secondReading : Instant

namespace Continuation

variable (c : Continuation) (state : WriteState)

def beforeSecondPlan : WriteState :=
  (state.afterPlan c.firstShares (some c.firstLandedAt)).takes c.between

def afterPlans : WriteState :=
  (c.beforeSecondPlan state).afterPlan c.secondShares (some c.secondLandedAt)

def beforeFirstReading : WriteState := (c.afterPlans state).takes c.waiting

def beforeSecondReading : WriteState :=
  ((c.beforeFirstReading state).taken c.firstReading).takes c.repeated

def holdApproach : Bool := ((c.beforeSecondReading state).gate.take c.secondReading).2.2

structure Regular : Prop where
  firstPlanned : (state.plan c.firstShares).2.isSome = true
  secondPlanned : ((c.beforeSecondPlan state).plan c.secondShares).2.isSome = true
  firstSends : state.holdsBack c.firstShares = false
  secondSends : (c.beforeSecondPlan state).holdsBack c.secondShares = false
  clock : c.firstLandedAt ≤ c.secondLandedAt
  firstReceived : c.secondLandedAt < c.firstReading
  secondReceived : c.secondLandedAt < c.secondReading
  firstFresh : (c.beforeFirstReading state).gate.lastUsed ≠ some c.firstReading
  secondFresh : (c.beforeSecondReading state).gate.lastUsed ≠ some c.secondReading

/-- A handoff still waiting for its growth has kept its flag, and one of the two plans changes a
share. -/
def Completes : Prop :=
  state.gate.handoff = .deferred → state.deferredGrowth = true ∧
    (state.changed c.firstShares ≠ [] ∨
      (c.beforeSecondPlan state).changed c.secondShares ≠ [])

variable {c : Continuation} {state : WriteState}

theorem Regular.afterPlans_deferred (regular : c.Regular state) :
    (c.afterPlans state).gate.handoff = .deferred ↔ ¬c.Completes state := by
  have flag : (c.beforeSecondPlan state).deferredGrowth =
      if state.changed c.firstShares = [] then state.deferredGrowth else false := by
    rw [beforeSecondPlan, WriteState.takes_deferredGrowth, WriteState.afterPlan_deferredGrowth,
      WriteState.plan_deferredGrowth, regular.firstSends]
  have waits : (c.beforeSecondPlan state).gate.handoff = .deferred ↔
      state.gate.handoff = .deferred ∧
        ¬(state.deferredGrowth = true ∧ state.changed c.firstShares ≠ []) := by
    rw [beforeSecondPlan, WriteState.takes_deferred,
      WriteState.afterPlan_handoff _ regular.firstSends]
    split
    · rename_i completes
      simp [completes]
    · rename_i stays
      tauto
  rw [afterPlans, WriteState.afterPlan_handoff _ regular.secondSends, Completes]
  by_cases changes : state.changed c.firstShares = []
  · rw [if_pos changes] at flag
    split
    · rename_i completes
      rw [waits, flag] at completes
      simp only [reduceCtorEq, false_iff]
      tauto
    · rename_i stays
      rw [waits, flag] at stays
      rw [waits]
      tauto
  · rw [if_neg changes] at flag
    simp only [flag, Bool.false_eq_true, false_and, and_false, if_false]
    rw [waits]
    tauto

theorem Regular.lifts (regular : c.Regular state)
    (counting : PoiGate.Counting c.secondLandedAt 0 (c.afterPlans state).gate.handoff) :
    c.holdApproach state = false := by
  have first := (WriteState.takes_counting counting c.waiting).progress_fresh
    regular.firstReceived
  have freshIs : decide ((c.beforeFirstReading state).gate.lastUsed ≠ some c.firstReading) =
      true := decide_eq_true regular.firstFresh
  have counted : PoiGate.Counting c.secondLandedAt 1
      ((c.beforeFirstReading state).taken c.firstReading).gate.handoff := by
    rw [WriteState.taken_handoff, freshIs]
    exact first.2
  have second := (WriteState.takes_counting counted c.repeated).progress_fresh
    regular.secondReceived
  have freshAgain : decide ((c.beforeSecondReading state).gate.lastUsed ≠
      some c.secondReading) = true := decide_eq_true regular.secondFresh
  unfold holdApproach PoiGate.take
  dsimp only
  rw [freshAgain]
  exact decide_eq_false (not_not.mpr (second.1 le_rfl))

theorem holds_of_deferred (deferred : (c.afterPlans state).gate.handoff = .deferred) :
    c.holdApproach state = true := by
  have first : (c.beforeFirstReading state).gate.handoff = .deferred :=
    (WriteState.takes_deferred c.waiting).mpr deferred
  have second : (c.beforeSecondReading state).gate.handoff = .deferred :=
    (WriteState.takes_deferred c.repeated).mpr (PoiGate.progress_deferred.mpr first)
  unfold holdApproach PoiGate.take
  dsimp only
  rw [PoiGate.progress_deferred.mpr second]
  rfl

theorem afterPlans_gated (reached : WriteState.Gated c.secondLandedAt state)
    (clock : c.firstLandedAt ≤ c.secondLandedAt) :
    WriteState.Gated c.secondLandedAt (c.afterPlans state) := by
  have first : WriteState.Gated c.secondLandedAt
      (state.afterPlan c.firstShares (some c.firstLandedAt)) := by
    refine reached.gateStep (.plan c.firstShares (some c.firstLandedAt)) ?_
    intro now landed
    rw [← Option.some.inj landed]
    exact clock
  have between : WriteState.Gated c.secondLandedAt (c.beforeSecondPlan state) := by
    rcases first with deferred | counting
    · exact .inl ((WriteState.takes_deferred c.between).mpr deferred)
    · exact .inr (WriteState.takes_counting counting c.between)
  refine between.gateStep (.plan c.secondShares (some c.secondLandedAt)) ?_
  intro now landed
  rw [← Option.some.inj landed]

/-- From every reachable state, the hold lifts after two landing plans and two fresh readings
exactly when a handoff that still waits for its growth gets to complete. -/
theorem approach_hold_lifts_iff {history : List GateStep} {c : Continuation}
    (earlier : ∀ step ∈ history, ∀ now, step.landedAt = some now → now ≤ c.firstLandedAt)
    (regular : c.Regular (run WriteState.gateStep .empty history)) :
    c.holdApproach (run WriteState.gateStep .empty history) = false ↔
      c.Completes (run WriteState.gateStep .empty history) := by
  have reached : WriteState.Gated c.secondLandedAt (run WriteState.gateStep .empty history) := by
    refine run_invariant (WriteState.Gated c.secondLandedAt) ?_ (.inr (.inl rfl))
      (along_of_forall_mem _ earlier)
    intro state step before early
    exact before.gateStep step fun now landed => (early now landed).trans regular.clock
  have planned := afterPlans_gated reached regular.clock
  constructor
  · intro lifted
    by_contra incomplete
    rw [holds_of_deferred (regular.afterPlans_deferred.mpr incomplete)] at lifted
    exact absurd lifted.symm Bool.false_ne_true
  · intro completes
    refine regular.lifts (planned.resolve_left ?_)
    intro deferred
    exact regular.afterPlans_deferred.mp deferred completes

end Continuation

/-! The first history ends with growth held back; in the second the plan that completes it
fails. -/

def deferredHistory : List GateStep :=
  [.plan (twoRacks 100 50) (some 0), .take 1, .plan (twoRacks 50 100) (some 1)]

def failedHistory : List GateStep :=
  deferredHistory ++ [.take 2, .plan (twoRacks 50 100) none]

def steadyContinuation : Continuation :=
  { firstShares := twoRacks 50 100
    firstLandedAt := 3
    between := [3]
    secondShares := twoRacks 50 100
    secondLandedAt := 4
    waiting := []
    firstReading := 5
    repeated := []
    secondReading := 6 }

theorem approach_hold_lifts_after_handoff :
    steadyContinuation.holdApproach (run WriteState.gateStep .empty deferredHistory) = false :=
  (Continuation.approach_hold_lifts_iff (by decide +kernel)
    ⟨by decide +kernel, by decide +kernel, by decide +kernel, by decide +kernel,
      by decide +kernel, by decide +kernel, by decide +kernel, by decide +kernel,
      by decide +kernel⟩).mpr
    fun _ => ⟨by decide +kernel, .inl (by decide +kernel)⟩

/-- The completing plan's write failed, its flag is gone, and nothing tells the gate again. -/
theorem approach_hold_stuck_after_failed_write :
    ¬∀ (history : List GateStep) (c : Continuation),
      (∀ step ∈ history, ∀ now, step.landedAt = some now → now ≤ c.firstLandedAt) →
        c.Regular (run WriteState.gateStep .empty history) →
          c.holdApproach (run WriteState.gateStep .empty history) = false := by
  intro claimed
  have lifted := claimed failedHistory steadyContinuation (by decide +kernel)
    ⟨by decide +kernel, by decide +kernel, by decide +kernel, by decide +kernel,
      by decide +kernel, by decide +kernel, by decide +kernel, by decide +kernel,
      by decide +kernel⟩
  revert lifted
  decide +kernel

end EmsGateway.Envelope
