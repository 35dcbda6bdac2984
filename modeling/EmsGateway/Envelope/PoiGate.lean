import EmsGateway.Envelope.WritesCore
import EmsGateway.Library.Runs

/-!
The POI gate under every order of its calls: planning defers a growth, landing writes it, ticking
takes readings. A handoff's progress is read off the calls since the growth was last deferred,
which is all the gate has to remember.
-/

namespace EmsGateway.Envelope

open EmsGateway.Library

inductive GateCall where
  | take (receivedAt : Instant)
  | growthDeferred
  | growthWritten (since : Instant)
  deriving DecidableEq, Repr

namespace PoiGate

def call (gate : PoiGate) (request : GateCall) : PoiGate :=
  match request with
  | .take receivedAt => (gate.take receivedAt).1
  | .growthDeferred => gate.growthDeferred
  | .growthWritten since => gate.growthWritten since

/-- What the takes of a sequence of calls return, each with its receipt time. -/
def reports (gate : PoiGate) : List GateCall → List (Instant × Bool × Bool)
  | [] => []
  | .take receivedAt :: rest =>
      (receivedAt, (gate.take receivedAt).2) :: (gate.take receivedAt).1.reports rest
  | other :: rest => (gate.call other).reports rest

def takenAt (calls : List GateCall) : List Instant :=
  calls.filterMap fun request =>
    match request with
    | .take receivedAt => some receivedAt
    | _ => none

@[simp] theorem takenAt_take (receivedAt : Instant) (rest : List GateCall) :
    takenAt (.take receivedAt :: rest) = receivedAt :: takenAt rest := rfl

/-! Freshness -/

def freshReports (gate : PoiGate) (calls : List GateCall) (receivedAt : Instant) :
    List (Instant × Bool × Bool) :=
  (gate.reports calls).filter fun report => decide (report.1 = receivedAt) && report.2.1

theorem freshReports_take (gate : PoiGate) (receivedAt time : Instant) (rest : List GateCall) :
    (gate.freshReports (.take receivedAt :: rest) time).length =
      (if receivedAt = time ∧ gate.lastUsed ≠ some time then 1 else 0) +
        ((gate.take receivedAt).1.freshReports rest time).length := by
  unfold freshReports
  simp only [reports, List.filter_cons]
  by_cases same : receivedAt = time
  · subst same
    by_cases used : gate.lastUsed = some receivedAt
    · simp [take, used]
    · simp [take, used]
      omega
  · simp [same]

/-- A receipt time is reported fresh by its first take; the takes of one receipt time follow each
other because receipt times do not go back. -/
theorem freshReports_length {gate : PoiGate} {calls : List GateCall}
    (ordered : (takenAt calls).Pairwise (· ≤ ·))
    (later : ∀ used ∈ gate.lastUsed, ∀ time ∈ takenAt calls, used ≤ time) (time : Instant) :
    (gate.freshReports calls time).length =
      if time ∈ takenAt calls ∧ gate.lastUsed ≠ some time then 1 else 0 := by
  induction calls generalizing gate with
  | nil => simp [freshReports, reports, takenAt]
  | cons request rest ih =>
      cases request with
      | growthDeferred => exact ih ordered later
      | growthWritten since =>
          have kept : (gate.growthWritten since).lastUsed = gate.lastUsed := by
            unfold growthWritten
            split <;> rfl
          have next := @ih (gate.growthWritten since) ordered (by rwa [kept])
          rw [kept] at next
          exact next
      | take receivedAt =>
          rw [takenAt_take, List.pairwise_cons] at ordered
          have next := @ih (gate.take receivedAt).1 ordered.2 (by
            intro used same time member
            obtain rfl := Option.some.inj same
            exact ordered.1 time member)
          rw [freshReports_take, next, takenAt_take]
          by_cases same : receivedAt = time
          · subst same
            simp [take]
          · have unused : time ∈ takenAt rest → gate.lastUsed ≠ some time := by
              intro member used
              have below := later time used receivedAt (by simp)
              exact same (le_antisymm (ordered.1 time member) below)
            by_cases member : time ∈ takenAt rest
            · simp [take, same, member, unused member]
            · simp [take, same, member, Ne.symm same]

/-! The hold -/

def isWritten (request : GateCall) : Bool :=
  match request with
  | .growthWritten _ => true
  | _ => false

/-- Fresh readings received after `since`. -/
def freshAfter (gate : PoiGate) (since : Instant) (calls : List GateCall) : ℕ :=
  ((gate.reports calls).filter fun report => report.2.1 && decide (since < report.1)).length

theorem freshAfter_take (gate : PoiGate) (since receivedAt : Instant) (rest : List GateCall) :
    gate.freshAfter since (.take receivedAt :: rest) =
      (if gate.lastUsed ≠ some receivedAt ∧ since < receivedAt then 1 else 0) +
        (gate.take receivedAt).1.freshAfter since rest := by
  unfold freshAfter
  simp only [reports, List.filter_cons]
  by_cases used : gate.lastUsed = some receivedAt
  · simp [take, used]
  · by_cases late : since < receivedAt
    · simp [take, used, late]
      omega
    · simp [take, used, late]

section Hold

variable {gate : PoiGate} {calls : List GateCall}

theorem deferred_kept (deferred : gate.handoff = .deferred)
    (onlyTakes : ∀ request ∈ calls, isWritten request = false) :
    (run call gate calls).handoff = .deferred := by
  induction calls generalizing gate with
  | nil => exact deferred
  | cons request rest ih =>
      refine ih ?_ fun later member => onlyTakes later (List.mem_cons_of_mem _ member)
      cases request with
      | take receivedAt => simp [call, take, progress, deferred]
      | growthDeferred => rfl
      | growthWritten since => simpa [isWritten] using onlyTakes _ List.mem_cons_self

theorem idle_kept (idle : gate.handoff = .idle) (undeferred : .growthDeferred ∉ calls) :
    (run call gate calls).handoff = .idle := by
  induction calls generalizing gate with
  | nil => exact idle
  | cons request rest ih =>
      rw [List.mem_cons, not_or] at undeferred
      refine ih ?_ undeferred.2
      cases request with
      | take receivedAt => simp [call, take, progress, idle]
      | growthDeferred => exact absurd rfl undeferred.1
      | growthWritten since => simp [call, growthWritten, idle]

theorem counting_kept {since : Instant} {seen : ℕ}
    (counting : gate.handoff = .growthWritten since seen) (few : seen < readingsAfterGrowth)
    (undeferred : .growthDeferred ∉ calls) :
    (run call gate calls).handoff =
      if seen + gate.freshAfter since calls < readingsAfterGrowth then
        .growthWritten since (seen + gate.freshAfter since calls)
      else .idle := by
  induction calls generalizing gate seen with
  | nil => simp [freshAfter, reports, counting, few]
  | cons request rest ih =>
      rw [List.mem_cons, not_or] at undeferred
      cases request with
      | growthDeferred => exact absurd rfl undeferred.1
      | growthWritten later =>
          have kept : gate.growthWritten later = gate := by simp [growthWritten, counting]
          have next := @ih (gate.growthWritten later) seen (by rw [kept, counting]) few
            undeferred.2
          exact next
      | take receivedAt =>
          have handoff : (gate.take receivedAt).1.handoff =
              progress (.growthWritten since seen) receivedAt
                (decide (gate.lastUsed ≠ some receivedAt)) := by
            rw [← counting]
            rfl
          rw [run_cons, freshAfter_take]
          by_cases counts : gate.lastUsed ≠ some receivedAt ∧ since < receivedAt
          · simp only [progress, counts, ne_eq, not_false_eq_true, decide_true, and_self,
              if_true] at handoff
            rw [if_pos counts]
            by_cases last : readingsAfterGrowth ≤ seen + 1
            · rw [if_pos last] at handoff
              rw [if_neg (by omega)]
              exact idle_kept handoff undeferred.2
            · rw [if_neg last] at handoff
              have next := ih handoff (not_le.mp last) undeferred.2
              rwa [← Nat.add_assoc]
          · have same : progress (.growthWritten since seen) receivedAt
                (decide (gate.lastUsed ≠ some receivedAt)) = .growthWritten since seen := by
              unfold progress
              dsimp only
              rw [if_neg (by simpa using counts)]
            rw [if_neg counts, Nat.zero_add]
            exact ih (handoff.trans same) few undeferred.2

theorem first_written (calls : List GateCall) :
    (∀ request ∈ calls, isWritten request = false) ∨
      ∃ waiting since counted, calls = waiting ++ .growthWritten since :: counted ∧
        ∀ request ∈ waiting, isWritten request = false := by
  induction calls with
  | nil => exact .inl (by simp)
  | cons request rest ih =>
      cases same : isWritten request with
      | true =>
          cases request with
          | growthWritten since => exact .inr ⟨[], since, rest, rfl, by simp⟩
          | take receivedAt => simp [isWritten] at same
          | growthDeferred => simp [isWritten] at same
      | false =>
          rcases ih with none | ⟨waiting, since, counted, rfl, first⟩
          · exact .inl (by simpa [same] using none)
          · exact .inr ⟨request :: waiting, since, counted, rfl, by simpa [same] using first⟩

end Hold

/-- After `before` a growth is deferred; of the calls since, the first that writes a growth is
followed by enough fresh readings received after it. -/
def Settled (before sinceDeferred : List GateCall) : Prop :=
  ∃ waiting since counted, sinceDeferred = waiting ++ .growthWritten since :: counted ∧
    (∀ request ∈ waiting, isWritten request = false) ∧
    readingsAfterGrowth ≤ (run call new (before ++ .growthDeferred :: waiting ++
      [.growthWritten since])).freshAfter since counted

theorem handoff_of_split {before waiting counted : List GateCall} {since : Instant}
    (first : ∀ request ∈ waiting, isWritten request = false)
    (undeferred : .growthDeferred ∉ counted) :
    (run call new
        (before ++ .growthDeferred :: (waiting ++ .growthWritten since :: counted))).handoff =
        .idle ↔
      readingsAfterGrowth ≤ (run call new (before ++ .growthDeferred :: waiting ++
        [.growthWritten since])).freshAfter since counted := by
  have deferred : (run call new (before ++ .growthDeferred :: waiting)).handoff = .deferred := by
    rw [run_append, run_cons]
    exact deferred_kept rfl first
  have written : (run call new (before ++ .growthDeferred :: waiting ++
      [.growthWritten since])).handoff = .growthWritten since 0 := by
    rw [run_append, run_cons, run_nil]
    simp [call, growthWritten, deferred]
  have joined : before ++ .growthDeferred :: (waiting ++ .growthWritten since :: counted) =
      (before ++ .growthDeferred :: waiting ++ [.growthWritten since]) ++ counted := by simp
  have counted := counting_kept written (by decide) undeferred
  rw [joined, run_append, counted, Nat.zero_add]
  split
  · rename_i few
    exact iff_of_false (by simp) (not_le.mpr few)
  · rename_i many
    exact iff_of_true rfl (not_lt.mp many)

theorem idle_iff_settled (before : List GateCall) {sinceDeferred : List GateCall}
    (undeferred : .growthDeferred ∉ sinceDeferred) :
    (run call new (before ++ .growthDeferred :: sinceDeferred)).handoff = .idle ↔
      Settled before sinceDeferred := by
  constructor
  · intro idle
    rcases first_written sinceDeferred with none | ⟨waiting, since, counted, rfl, first⟩
    · rw [run_append, run_cons] at idle
      have deferred := @deferred_kept (run call new before).growthDeferred _ rfl none
      exact absurd (deferred.symm.trans idle) (by simp)
    · rw [handoff_of_split first (by simp_all)] at idle
      exact ⟨waiting, since, counted, rfl, first, idle⟩
  · rintro ⟨waiting, since, counted, rfl, first, enough⟩
    exact (handoff_of_split first (by simp_all)).mpr enough

/-- Over any calls, each receipt time is fresh to exactly one take as long as they do not go back,
and a deferred growth holds the approach until the readings after its write are in. -/
theorem gate_fresh_once_and_holds :
    (∀ calls, (takenAt calls).Pairwise (· ≤ ·) →
      ∀ time ∈ takenAt calls, (new.freshReports calls time).length = 1) ∧
    ∀ before sinceDeferred receivedAt, .growthDeferred ∉ sinceDeferred →
      (((run call new (before ++ .growthDeferred :: sinceDeferred)).take receivedAt).2.2 = true ↔
        ¬Settled before (sinceDeferred ++ [.take receivedAt])) := by
  constructor
  · intro calls ordered time taken
    rw [freshReports_length ordered (by simp [new]), if_pos ⟨taken, by simp [new]⟩]
  · intro before sinceDeferred receivedAt undeferred
    rw [← idle_iff_settled before (by simpa using undeferred)]
    have taken : (run call new (before ++ .growthDeferred ::
        (sinceDeferred ++ [.take receivedAt]))) =
        ((run call new (before ++ .growthDeferred :: sinceDeferred)).take receivedAt).1 := by
      rw [← List.cons_append, ← List.append_assoc, run_append]
      rfl
    rw [taken]
    exact decide_eq_true_iff

/-- A growth deferred after the first reading and written between the second and the third. -/
def handoffCalls : List GateCall :=
  [.take 1000, .growthWritten 1100, .take 1500, .take 1500]

theorem gate_fresh_once_and_holds_handoff :
    (new.freshReports (.take 0 :: .growthDeferred :: handoffCalls) 1500).length = 1 ∧
      (((run call new ([.take 0] ++ .growthDeferred :: handoffCalls)).take 2500).2.2 = true ↔
        ¬Settled [.take 0] (handoffCalls ++ [.take 2500])) :=
  ⟨gate_fresh_once_and_holds.1 _ (by decide) 1500 (by decide),
    gate_fresh_once_and_holds.2 _ _ _ (by decide)⟩

end PoiGate

end EmsGateway.Envelope
