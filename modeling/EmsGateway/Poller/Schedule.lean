import EmsGateway.Library.Runs
import EmsGateway.Library.Spacing
import EmsGateway.Poller.PollerCore

/-!
When a device's readings are read. However long the turns take, a reading is never read in a burst
to catch up, and as long as no turn takes longer than a limit, no reading waits longer than its
period and two rounds of turns.
-/

namespace EmsGateway.Poller

open EmsGateway.Library EmsGateway.Library.Spacing

/-! Periods -/

theorem clampPollRate_bounds (value : Option ℚ) :
    minPollHz ≤ clampPollRate value ∧ clampPollRate value ≤ maxPollHz := by
  unfold clampPollRate
  dsimp only
  have ordered : minPollHz ≤ maxPollHz := by norm_num [minPollHz, maxPollHz]
  split
  · exact ⟨le_rfl, ordered⟩
  · split
    · exact ⟨ordered, le_rfl⟩
    · rename_i slow fast
      exact ⟨not_lt.mp slow, not_lt.mp fast⟩

theorem le_roundHalfEven {x : ℚ} {n : ℤ} (below : (n : ℚ) ≤ x) : n ≤ roundHalfEven x := by
  have floor := Int.le_floor.mpr below
  unfold roundHalfEven
  split
  · exact floor
  · split
    · omega
    · split <;> omega

/-- No reading is due more than ten times a second. -/
theorem pollPeriod_ge (value : Option ℚ) :
    nanosPerSec / 10 ≤ pollPeriod (clampPollRate value) := by
  obtain ⟨slow, fast⟩ := clampPollRate_bounds value
  have positive : 0 < clampPollRate value :=
    lt_of_lt_of_le (by norm_num [minPollHz]) slow
  have inverse : (1 : ℚ) / 10 ≤ 1 / clampPollRate value :=
    one_div_le_one_div_of_le positive fast
  have rounded : (100000000 : ℤ) ≤ roundHalfEven (1 / clampPollRate value * nanosPerSec) := by
    apply le_roundHalfEven
    have scaled := mul_le_mul_of_nonneg_right inverse (Nat.cast_nonneg (α := ℚ) nanosPerSec)
    norm_num [nanosPerSec] at scaled ⊢
    linarith
  unfold pollPeriod
  simp only [nanosPerSec] at rounded ⊢
  omega

theorem advance_eq (dueAt period now : ℕ) : advance dueAt period now =
    if dueAt + period ≤ now then now + period else dueAt + period := rfl

theorem rearms_advance {dueAt period : ℕ} (positive : 0 < period) (now : ℕ) :
    Rearms period dueAt now (advance dueAt period now) := by
  rw [advance_eq]
  split
  · exact ⟨by omega, by omega⟩
  · exact ⟨by omega, le_rfl⟩

/-! One step -/

namespace PollLoop

/-- The clock never goes back, and a tick starts no earlier than the earliest reading is due. -/
def Timely (s : PollLoop) (step : Step) : Prop :=
  match step with
  | .wake now => s.pending = [] ∧ s.clock ≤ now ∧ ∃ dueAt ∈ s.next, dueAt ≤ now
  | .read _ now => s.pending ≠ [] ∧ s.clock ≤ now

def turnsOf (s : PollLoop) (i : ℕ) : List Turn := s.log.filter fun turn => turn.point = i

def firings (s : PollLoop) (i : ℕ) : List Firing :=
  (s.turnsOf i).map fun turn => ⟨turn.started, turn.finished⟩

section Steps

variable {device : DevicePoller} {s : PollLoop}

/-- Whatever the answers, a step is a wake, a turn of the first pending reading, or nothing. -/
theorem step_cases (device : DevicePoller) (s : PollLoop) (step : Step) :
    (∃ now, step = .wake now ∧ s.pending = [] ∧ s.step device step = s.wake now) ∨
      (∃ answers now i rest point, step = .read answers now ∧ s.pending = i :: rest ∧
        device.points[i]? = some point ∧
          s.step device step = s.read device i rest point answers now) ∨
      s.step device step = s := by
  unfold PollLoop.step
  split
  · rename_i now pending
    exact .inl ⟨now, rfl, pending, rfl⟩
  · rename_i answers now i rest pending
    split
    · rename_i point found
      exact .inr (.inl ⟨answers, now, i, rest, point, rfl, pending, found, rfl⟩)
    · exact .inr (.inr rfl)
  · exact .inr (.inr rfl)

theorem mem_due {next : List Instant} {now : Instant} {i : ℕ} :
    i ∈ due next now ↔ ∃ dueAt, next[i]? = some dueAt ∧ dueAt ≤ now := by
  unfold due
  rw [List.mem_filter, List.mem_range, decide_eq_true_eq]
  constructor
  · rintro ⟨bound, reached⟩
    refine ⟨next[i], List.getElem?_eq_getElem bound, ?_⟩
    rwa [List.getD_eq_getElem _ _ bound] at reached
  · rintro ⟨dueAt, found, reached⟩
    obtain ⟨bound, same⟩ := List.getElem?_eq_some_iff.mp found
    refine ⟨bound, ?_⟩
    rwa [List.getD_eq_getElem _ _ bound, same]

theorem nodup_due (next : List Instant) (now : Instant) : (due next now).Nodup :=
  List.nodup_range.filter _

@[simp] theorem firings_wake (now : Instant) (i : ℕ) :
    (s.wake now).firings i = s.firings i := rfl

theorem firings_read (i : ℕ) (rest : List ℕ) (point : Point) (answers : Answers) (now : Instant)
    (j : ℕ) : (s.read device i rest point answers now).firings j =
      if i = j then ⟨s.clock, now⟩ :: s.firings j else s.firings j := by
  unfold firings turnsOf PollLoop.read PollLoop.turn
  dsimp only
  by_cases same : i = j
  · rw [if_pos same, List.filter_cons_of_pos (by simpa using same), List.map_cons]
  · rw [if_neg same, List.filter_cons_of_neg (by simpa using same)]

theorem next_read (i : ℕ) (rest : List ℕ) (point : Point) (answers : Answers) (now : Instant)
    (j : ℕ) : (s.read device i rest point answers now).next[j]? =
      if i = j then (s.next[j]?).map fun dueAt => advance dueAt point.period now
      else s.next[j]? := by
  unfold PollLoop.read
  dsimp only
  rw [List.getElem?_modify]
  split
  · rfl
  · simp

/-! No burst -/

/-- Each pending reading is due and listed once, and each reading's timer has been rearmed after
every turn it took. -/
structure Regular (device : DevicePoller) (s : PollLoop) : Prop where
  timers : s.next.length = device.points.length
  ready : ∀ i ∈ s.pending, ∃ dueAt, s.next[i]? = some dueAt ∧ dueAt ≤ s.clock
  once : s.pending.Nodup
  fired : ∀ i point dueAt, device.points[i]? = some point → s.next[i]? = some dueAt →
    Fired point.period dueAt (s.firings i)

theorem Regular.start (device : DevicePoller) (now : Instant) :
    Regular device (start device now) := by
  refine ⟨List.length_replicate, ?_, List.nodup_nil, ?_⟩
  · intro i pending
    exact absurd pending List.not_mem_nil
  · intro i point dueAt _ _
    exact fired_nil point.period dueAt

theorem Regular.read (regular : Regular device s) (positive : ∀ point ∈ device.points,
    0 < point.period) {i : ℕ} {rest : List ℕ} (pending : s.pending = i :: rest) {point : Point}
    (found : device.points[i]? = some point) (answers : Answers) {now : Instant}
    (later : s.clock ≤ now) : Regular device (s.read device i rest point answers now) := by
  have once := regular.once
  rw [pending] at once
  obtain ⟨fresh, onceRest⟩ := List.nodup_cons.mp once
  refine ⟨(List.length_modify _ _ _).trans regular.timers, ?_, onceRest, ?_⟩
  · intro j waits
    have apart : i ≠ j := fun same => fresh (same ▸ waits)
    obtain ⟨dueAt, at_, reached⟩ := regular.ready j (by
      rw [pending]
      exact List.mem_cons_of_mem i waits)
    refine ⟨dueAt, ?_, reached.trans later⟩
    rw [next_read, if_neg apart, at_]
  · intro j other dueAt there at_
    rw [next_read] at at_
    rw [firings_read]
    by_cases same : i = j
    · subst same
      rw [if_pos rfl] at at_
      obtain ⟨before, held, rfl⟩ := Option.map_eq_some_iff.mp at_
      obtain rfl := Option.some.inj (found.symm.trans there)
      obtain ⟨dueBefore, at', reached⟩ := regular.ready i (by
        rw [pending]
        exact List.mem_cons_self)
      obtain rfl := Option.some.inj (held.symm.trans at')
      rw [if_pos rfl]
      exact (regular.fired i point before found held).fire reached
        (rearms_advance (positive point (List.mem_of_getElem? found)) now)
    · rw [if_neg same] at at_ ⊢
      exact regular.fired j other dueAt there at_

theorem Regular.step (positive : ∀ point ∈ device.points, 0 < point.period)
    (regular : Regular device s) {input : Step} (timely : s.Timely input) :
    Regular device (s.step device input) := by
  rcases step_cases device s input with ⟨now, rfl, _, same⟩ |
    ⟨answers, now, i, rest, point, rfl, pending, found, same⟩ | same
  · rw [same]
    exact ⟨regular.timers, fun i waits => mem_due.mp waits, nodup_due _ _, regular.fired⟩
  · rw [same]
    exact regular.read positive pending found answers timely.2
  · rwa [same]

end Steps

theorem positive_of_spawned {device : DevicePoller} (spawned : device.Spawned) :
    ∀ point ∈ device.points, 0 < point.period := by
  intro point member
  obtain ⟨value, period⟩ := spawned point member
  rw [period]
  exact lt_of_lt_of_le (by norm_num [nanosPerSec]) (pollPeriod_ge value)

/-- Of any turns that one reading takes in a row, the last starts more than `k` periods after the
first is over, with `k` turns between them: a device that was slow is not asked again in a burst. -/
theorem no_catch_up_burst {device : DevicePoller} (spawned : device.Spawned) {boot : Instant}
    {steps : List Step} (timely : Along (PollLoop.step device) Timely (start device boot) steps)
    {i : ℕ} {point : Point} (found : device.points[i]? = some point) {j k : ℕ}
    {early late : Firing}
    (newer : ((run (PollLoop.step device) (start device boot) steps).firings i)[j]? = some late)
    (older : ((run (PollLoop.step device) (start device boot) steps).firings i)[j + k + 1]? =
      some early) : early.finished + k * point.period < late.started := by
  have regular := run_invariant (Regular device)
    (fun _ _ before allowed => before.step (positive_of_spawned spawned) allowed)
    (.start device boot) timely
  obtain ⟨bound, _⟩ := List.getElem?_eq_some_iff.mp found
  have timer := List.getElem?_eq_getElem (lt_of_lt_of_eq bound regular.timers.symm)
  exact (regular.fired i point _ found timer).spaced j k early late newer older

/-! No long wait -/

/-- No turn takes longer than `turn`, and a sleep ends at most `slop` after it should. -/
def Prompt (turn slop : ℕ) (s : PollLoop) (step : Step) : Prop :=
  s.Timely step ∧
    match step with
    | .wake now => ∀ dueAt ∈ s.next, now ≤ max s.clock dueAt + slop
    | .read _ now => now ≤ s.clock + turn

def lastTurn (s : PollLoop) (boot : ℕ) (i : ℕ) : ℕ :=
  match s.firings i with
  | firing :: _ => firing.finished
  | [] => boot

/-- In a tick that woke at `woke`: no turn is over too late, and the pending readings are those that
were due. -/
structure Ticking (s : PollLoop) (round turn slop woke : ℕ) : Prop where
  began : woke ≤ s.clock
  budget : s.clock + s.pending.length * turn ≤ woke + round
  pending : ∀ (i : ℕ) (dueAt : ℕ), s.next[i]? = some dueAt → i ∈ s.pending →
    dueAt ≤ woke ∧ woke ≤ dueAt + round + slop
  others : ∀ (i : ℕ) (dueAt : ℕ), s.next[i]? = some dueAt → i ∉ s.pending → woke < dueAt

structure Attended (device : DevicePoller) (boot turn slop : ℕ) (s : PollLoop) : Prop
    extends Regular device s where
  soon : ∀ (i : ℕ) point (dueAt : ℕ), device.points[i]? = some point → s.next[i]? = some dueAt →
    dueAt ≤ s.lastTurn boot i + point.period
  idle : s.pending = [] → ∀ (i : ℕ) (dueAt : ℕ), s.next[i]? = some dueAt →
    s.clock ≤ dueAt + device.points.length * turn
  busy : s.pending ≠ [] → ∃ woke, s.Ticking (device.points.length * turn) turn slop woke

section Attended

variable {device : DevicePoller} {boot turn slop : ℕ} {s : PollLoop}

theorem length_due_le (next : List Instant) (now : Instant) :
    (due next now).length ≤ next.length := by
  have shorter := List.length_filter_le (fun i => decide (next.getD i 0 ≤ now))
    (List.range next.length)
  rwa [List.length_range] at shorter

theorem Attended.wake (attended : Attended device boot turn slop s) {now : ℕ}
    (waits : s.pending = [])
    (prompt : ∀ dueAt ∈ s.next, now ≤ max s.clock dueAt + slop) :
    Attended device boot turn slop (s.wake now) := by
  refine ⟨⟨attended.timers, fun i waits => mem_due.mp waits, nodup_due _ _, attended.fired⟩,
    attended.soon, ?_, ?_⟩
  · intro none i dueAt at_
    have notDue : i ∉ due s.next now := by
      have empty : due s.next now = [] := none
      rw [empty]
      exact List.not_mem_nil
    have after : now < dueAt := by
      by_contra reached
      exact notDue (mem_due.mpr ⟨dueAt, at_, not_lt.mp reached⟩)
    exact after.le.trans (Nat.le_add_right _ _)
  · intro _
    refine ⟨now, le_rfl, ?_, ?_, ?_⟩
    · have few := length_due_le s.next now
      rw [attended.timers] at few
      exact Nat.add_le_add_left (Nat.mul_le_mul_right turn few) now
    · intro i dueAt at_ pending
      obtain ⟨reachedAt, at', reached⟩ := mem_due.mp pending
      obtain rfl := Option.some.inj (at_.symm.trans at')
      have idle := attended.idle waits i dueAt at_
      have woken := prompt dueAt (List.mem_of_getElem? at_)
      refine ⟨reached, ?_⟩
      dsimp only [Instant] at *
      omega
    · intro i dueAt at_ others
      by_contra reached
      exact others (mem_due.mpr ⟨dueAt, at_, not_lt.mp reached⟩)

@[simp] theorem lastTurn_wake (now : Instant) (i : ℕ) :
    (s.wake now).lastTurn boot i = s.lastTurn boot i := rfl

theorem lastTurn_read (i : ℕ) (rest : List ℕ) (point : Point) (answers : Answers) (now : ℕ)
    (j : ℕ) : (s.read device i rest point answers now).lastTurn boot j =
      if i = j then now else s.lastTurn boot j := by
  unfold lastTurn
  rw [firings_read]
  by_cases same : i = j
  · rw [if_pos same, if_pos same]
  · rw [if_neg same, if_neg same]

theorem advance_bounds (dueAt period now : ℕ) :
    advance dueAt period now ≤ max now dueAt + period := by
  rw [advance_eq]
  split
  · exact Nat.add_le_add_right (le_max_left _ _) _
  · exact Nat.add_le_add_right (le_max_right _ _) _

/-- After a turn its reading is due again later, and the others stand as they stood. -/
theorem Ticking.after {limit woke : ℕ} (ticking : s.Ticking limit turn slop woke) {i : ℕ}
    {rest : List ℕ} (pending : s.pending = i :: rest) {point : Point} (positive : 0 < point.period)
    (answers : Answers) {now : ℕ} (later : s.clock ≤ now) {j dueAt : ℕ}
    (at_ : (s.read device i rest point answers now).next[j]? = some dueAt) :
    i = j ∧ now < dueAt ∧ dueAt ≤ now + point.period ∨ i ≠ j ∧ s.next[j]? = some dueAt := by
  rw [next_read] at at_
  by_cases same : i = j
  · rw [if_pos same] at at_
    obtain ⟨before, held, rfl⟩ := Option.map_eq_some_iff.mp at_
    have reached := (ticking.pending j before held (by
      rw [pending, ← same]
      exact List.mem_cons_self)).1
    have bound := advance_bounds before point.period now
    have rearmed : now < advance before point.period now := (rearms_advance positive now).later
    rw [max_eq_left (reached.trans (ticking.began.trans later))] at bound
    exact .inl ⟨same, rearmed, bound⟩
  · rw [if_neg same] at at_
    exact .inr ⟨same, at_⟩

theorem Attended.read (attended : Attended device boot turn slop s)
    (positive : ∀ point ∈ device.points, 0 < point.period) {i : ℕ} {rest : List ℕ}
    (pending : s.pending = i :: rest) {point : Point} (found : device.points[i]? = some point)
    (answers : Answers) {now : ℕ} (later : s.clock ≤ now) (prompt : now ≤ s.clock + turn) :
    Attended device boot turn slop (s.read device i rest point answers now) := by
  have regular := attended.toRegular.read positive pending found answers later
  obtain ⟨woke, ticking⟩ := attended.busy (by rw [pending]; exact List.cons_ne_nil _ _)
  have once := attended.once
  rw [pending] at once
  obtain ⟨fresh, _⟩ := List.nodup_cons.mp once
  have own := positive point (List.mem_of_getElem? found)
  have budget := ticking.budget
  rw [pending, List.length_cons, Nat.succ_mul] at budget
  refine ⟨regular, ?_, ?_, ?_⟩
  · intro j other dueAt there at_
    rw [lastTurn_read]
    rcases ticking.after pending own answers later at_ with ⟨rfl, _, bound⟩ | ⟨apart, held⟩
    · obtain rfl := Option.some.inj (found.symm.trans there)
      rwa [if_pos rfl]
    · rw [if_neg apart]
      exact attended.soon j other dueAt there held
  · intro last j dueAt at_
    have began := ticking.began
    have ended : now ≤ woke + device.points.length * turn := by
      dsimp only [Instant] at *
      omega
    rcases ticking.after pending own answers later at_ with ⟨_, rearmed, _⟩ | ⟨apart, held⟩
    · exact rearmed.le.trans (Nat.le_add_right _ _)
    · have notDue := ticking.others j dueAt held (by
        rw [pending, List.mem_cons, not_or]
        refine ⟨fun same => apart same.symm, ?_⟩
        have empty : rest = [] := last
        rw [empty]
        exact List.not_mem_nil)
      exact ended.trans (Nat.add_le_add_right notDue.le _)
  · intro _
    refine ⟨woke, ticking.began.trans later, ?_, ?_, ?_⟩
    · have shorter : now + rest.length * turn ≤ woke + device.points.length * turn := by
        dsimp only [Instant] at *
        omega
      exact shorter
    · intro j dueAt at_ waits
      have apart : i ≠ j := fun same => fresh (same ▸ waits)
      rcases ticking.after pending own answers later at_ with ⟨same, _⟩ | ⟨_, held⟩
      · exact absurd same apart
      · exact ticking.pending j dueAt held (by
          rw [pending]
          exact List.mem_cons_of_mem i waits)
    · intro j dueAt at_ others
      have began := ticking.began
      rcases ticking.after pending own answers later at_ with ⟨_, rearmed, _⟩ | ⟨apart, held⟩
      · exact lt_of_le_of_lt (began.trans later) rearmed
      · exact ticking.others j dueAt held (by
          rw [pending, List.mem_cons, not_or]
          exact ⟨fun same => apart same.symm, others⟩)

theorem Attended.start (device : DevicePoller) (boot turn slop : ℕ) :
    Attended device boot turn slop (start device boot) := by
  have booted : ∀ (i : ℕ) (dueAt : ℕ), (PollLoop.start device boot).next[i]? = some dueAt →
      dueAt = boot := by
    intro i dueAt at_
    exact List.eq_of_mem_replicate (List.mem_of_getElem? at_)
  refine ⟨Regular.start device boot, ?_, ?_, ?_⟩
  · intro i point dueAt _ at_
    rw [booted i dueAt at_]
    exact Nat.le_add_right _ _
  · intro _ i dueAt at_
    rw [booted i dueAt at_]
    exact Nat.le_add_right _ _
  · intro busy
    exact absurd rfl busy

theorem Attended.step (positive : ∀ point ∈ device.points, 0 < point.period)
    (attended : Attended device boot turn slop s) {input : Step} (prompt : s.Prompt turn slop input) :
    Attended device boot turn slop (s.step device input) := by
  rcases step_cases device s input with ⟨now, rfl, waits, same⟩ |
    ⟨answers, now, i, rest, point, rfl, pending, found, same⟩ | same
  · rw [same]
    exact attended.wake waits prompt.2
  · rw [same]
    exact attended.read positive pending found answers prompt.1.2 prompt.2
  · rwa [same]

theorem Attended.age (attended : Attended device boot turn slop s) {i : ℕ} {point : Point}
    (found : device.points[i]? = some point) : s.clock ≤
      s.lastTurn boot i + point.period + 2 * (device.points.length * turn) + slop := by
  obtain ⟨bound, _⟩ := List.getElem?_eq_some_iff.mp found
  have inside : i < s.next.length := lt_of_lt_of_eq bound attended.timers.symm
  obtain ⟨dueAt, timer⟩ : ∃ dueAt : ℕ, s.next[i]? = some dueAt :=
    ⟨s.next[i], List.getElem?_eq_getElem inside⟩
  have soon := attended.soon i point dueAt found timer
  by_cases waits : s.pending = []
  · have idle := attended.idle waits i dueAt timer
    dsimp only [Instant, Duration] at *
    omega
  · obtain ⟨woke, ticking⟩ := attended.busy waits
    have budget := ticking.budget
    by_cases pending : i ∈ s.pending
    · have reached := (ticking.pending i dueAt timer pending).2
      dsimp only [Instant, Duration] at *
      omega
    · have notDue := ticking.others i dueAt timer pending
      dsimp only [Instant, Duration] at *
      omega

end Attended

/-- While no turn takes longer than `turn` and no sleep ends later than `slop` after it should, every
reading has been read, or tried, within its period, two rounds of turns and the slop. -/
theorem reading_never_long_unread {device : DevicePoller} (spawned : device.Spawned)
    {boot turn slop : ℕ} {steps : List Step}
    (prompt : Along (PollLoop.step device) (Prompt turn slop) (start device boot) steps) {i : ℕ}
    {point : Point} (found : device.points[i]? = some point) :
    let s := run (PollLoop.step device) (start device boot) steps
    s.clock ≤ s.lastTurn boot i + point.period + 2 * (device.points.length * turn) + slop := by
  have attended := run_invariant (Attended device boot turn slop)
    (fun _ _ before allowed => before.step (positive_of_spawned spawned) allowed)
    (.start device boot turn slop) prompt
  exact attended.age found

/-! One reading a second from a device whose first answer takes five -/

def slowDevice : DevicePoller where
  points := [⟨"t", .other "snmp", pollPeriod (clampPollRate none), none, none⟩]
  trust := none
  creds := none
  formats := ⟨fun _ => .ok (), fun _ _ => .ok (), toString⟩
  lookup := fun _ _ => none

def slowAnswers : Answers where
  resource := .error "timed out"
  tlsConfig := .ok ()
  session := .error "timed out"
  value := .ok (.number 42)
  ts := "2026-10-01T00:00:00Z"
  brokerAccepts := true

def slowSteps : List Step := [.wake 0, .read slowAnswers (Duration.fromSecs 5),
  .wake (Duration.fromSecs 6), .read slowAnswers (Duration.fromSecs 6),
  .wake (Duration.fromSecs 7), .read slowAnswers (Duration.fromSecs 7)]

theorem spawned_slowDevice : slowDevice.Spawned := by
  intro point member
  obtain rfl := List.mem_singleton.mp member
  exact ⟨none, rfl⟩

theorem prompt_slowSteps : Along (PollLoop.step slowDevice) (Prompt (Duration.fromSecs 5) 0)
    (start slowDevice 0) slowSteps := by
  refine ⟨?_, ?_, ?_, ?_, ?_, ?_, trivial⟩
  · exact ⟨⟨rfl, le_rfl, 0, by decide +kernel, le_rfl⟩, by decide +kernel⟩
  · exact ⟨⟨by decide +kernel, by decide +kernel⟩, by decide +kernel⟩
  · exact ⟨⟨by decide +kernel, by decide +kernel, Duration.fromSecs 6, by decide +kernel, le_rfl⟩,
      by decide +kernel⟩
  · exact ⟨⟨by decide +kernel, by decide +kernel⟩, by decide +kernel⟩
  · exact ⟨⟨by decide +kernel, by decide +kernel, Duration.fromSecs 7, by decide +kernel, le_rfl⟩,
      by decide +kernel⟩
  · exact ⟨⟨by decide +kernel, by decide +kernel⟩, by decide +kernel⟩

theorem no_catch_up_burst_slow_device :
    Duration.fromSecs 5 + 1 * pollPeriod (clampPollRate none) < Duration.fromSecs 7 := by
  have timely : Along (PollLoop.step slowDevice) Timely (start slowDevice 0) slowSteps :=
    Along.imp (fun _ _ holds => holds.1) prompt_slowSteps
  have newer : ((run (PollLoop.step slowDevice) (start slowDevice 0) slowSteps).firings 0)[0]? =
      some ⟨Duration.fromSecs 7, Duration.fromSecs 7⟩ := by decide +kernel
  have older : ((run (PollLoop.step slowDevice) (start slowDevice 0) slowSteps).firings 0)[2]? =
      some ⟨0, Duration.fromSecs 5⟩ := by decide +kernel
  exact @no_catch_up_burst slowDevice spawned_slowDevice 0 slowSteps timely 0 _
    List.getElem?_cons_zero 0 1 _ _ newer older

theorem reading_never_long_unread_slow_device :
    let s := run (PollLoop.step slowDevice) (start slowDevice 0) slowSteps
    s.clock ≤ s.lastTurn 0 0 + pollPeriod (clampPollRate none) +
      2 * (1 * Duration.fromSecs 5) + 0 :=
  reading_never_long_unread spawned_slowDevice prompt_slowSteps List.getElem?_cons_zero

end PollLoop

end EmsGateway.Poller
