import EmsGateway.Dispatch.CommandCore
import EmsGateway.Library.Runs
import EmsGateway.Library.UndoLog

/-!
Concurrent runs of the command handler over the shared map of requested setpoints. A `start`
takes a call up to its record step, a `finish` settles its south-side write; between the two any
other call may start or finish. The calls that recorded are the log of an undo log, and every
step of the handler is a step of it.
-/

namespace EmsGateway.Dispatch

open EmsGateway.Asyncapi EmsGateway.Library

structure Pending.Answers (pending : Pending) (env : CommandEnv) (requested : Requested)
    (topic : String) (frame : Option CommandFrame) : Prop where
  sameEnv : pending.env = env
  unlocked : pending.deviceId ∉ env.locked
  previous : pending.previous = requested (pending.deviceId, pending.channelKey)
  value : frame.map CommandFrame.value = some pending.value
  command : ∃ command, parseCommandTopic topic env.siteId = some command ∧
    pending.deviceId = command.deviceId ∧
    pending.channelKey = command.verb ++ "_" ++ command.target
  bound : ∃ bindings, env.channels pending.deviceId = some bindings ∧
    bindings pending.channelKey = some pending.binding

theorem Pending.Answers.resolved {pending : Pending} {env : CommandEnv} {requested : Requested}
    {topic : String} {frame : Option CommandFrame}
    (answers : pending.Answers env requested topic frame) :
    channelOf env.channels pending.deviceId pending.channelKey = some pending.binding := by
  obtain ⟨bindings, device, found⟩ := answers.bound
  exact Option.bind_eq_some_iff.mpr ⟨bindings, device, found⟩

def Pending.replacing (pending : Pending) (requested : Requested) : Pending :=
  { pending with previous := requested (pending.deviceId, pending.channelKey) }

/-- What becomes of a command does not depend on what is requested so far; only the request that it
replaces does. -/
theorem beginCommand_uniform (env : CommandEnv) (accepts : Broker) (topic : String)
    (frame : Option CommandFrame) :
    (∃ result, ∀ requested,
      beginCommand env accepts requested topic frame = (requested, .settled result)) ∨
      ∃ pending : Pending, ∀ requested,
        (pending.replacing requested).Answers env requested topic frame ∧
        beginCommand env accepts requested topic frame =
          (Function.update requested (pending.deviceId, pending.channelKey) (some pending.value),
            .writing (pending.replacing requested)) := by
  unfold beginCommand
  cases parsed : parseCommandTopic topic env.siteId with
  | none => exact .inl ⟨_, fun _ => rfl⟩
  | some command =>
      dsimp only
      cases device : env.channels command.deviceId with
      | none => exact .inl ⟨_, fun _ => rfl⟩
      | some commands =>
          cases frame with
          | none => exact .inl ⟨_, fun _ => rfl⟩
          | some frame =>
              dsimp only
              split
              · exact .inl ⟨_, fun _ => rfl⟩
              · by_cases lockedOut : command.deviceId ∈ env.locked
                · exact .inl ⟨_, fun _ => if_pos lockedOut⟩
                · simp only [if_neg lockedOut]
                  split
                  · exact .inl ⟨_, fun _ => rfl⟩
                  · next binding found =>
                    refine .inr ⟨⟨env, command.deviceId, command.verb ++ "_" ++ command.target,
                      frame.commandId, binding, frame.value, none⟩, fun requested =>
                      ⟨⟨?_, ?_, ?_, ?_, ⟨command, parsed, ?_, ?_⟩, commands, device, found⟩,
                        Prod.ext ?_ rfl⟩⟩
                    · rfl
                    · exact lockedOut
                    · rfl
                    · rfl
                    · rfl
                    · rfl
                    · rfl

theorem beginCommand_cases (env : CommandEnv) (accepts : Broker) (requested : Requested)
    (topic : String) (frame : Option CommandFrame) :
    (∃ result, beginCommand env accepts requested topic frame = (requested, .settled result)) ∨
      ∃ pending : Pending, pending.Answers env requested topic frame ∧
        beginCommand env accepts requested topic frame =
          (Function.update requested (pending.deviceId, pending.channelKey) (some pending.value),
            .writing pending) := by
  rcases beginCommand_uniform env accepts topic frame with ⟨result, settled⟩ | ⟨pending, writing⟩
  · exact .inl ⟨result, settled requested⟩
  · exact .inr ⟨pending.replacing requested, writing requested⟩

theorem restore_record (requested : Requested) (deviceId key : String) (value : ℚ) :
    restore (record requested deviceId key value).1 deviceId key value
      (requested (deviceId, key)) = requested := by
  simp [restore, record]

structure Execution where
  pending : Pending
  standing : Standing

def Execution.key (execution : Execution) : String × String :=
  (execution.pending.deviceId, execution.pending.channelKey)

def Execution.entry (execution : Execution) : Entry (String × String) ℚ :=
  ⟨execution.key, execution.pending.value, execution.pending.previous, execution.standing⟩

structure Handler where
  requested : Requested
  executions : List Execution

def Handler.idle (requested : Requested) : Handler := ⟨requested, []⟩

inductive HandlerStep where
  | start (env : CommandEnv) (accepts : Broker) (topic : String) (frame : Option CommandFrame)
  | finish (index : ℕ) (accepts : Broker) (cache : InputCache) (now : Instant) (south : South)

def Handler.start (handler : Handler) (env : CommandEnv) (accepts : Broker) (topic : String)
    (frame : Option CommandFrame) : Handler :=
  match beginCommand env accepts handler.requested topic frame with
  | (requested, .settled _) => { handler with requested := requested }
  | (requested, .writing pending) => ⟨requested, handler.executions ++ [⟨pending, .pending⟩]⟩

def standingOf (written : Except String Unit) : Standing :=
  match written with
  | .ok () => .kept
  | .error _ => .undone

def Handler.finish (handler : Handler) (index : ℕ) (accepts : Broker)
    (written : Pending → Except String Unit) : Handler :=
  match handler.executions[index]? with
  | some ⟨pending, .pending⟩ =>
      ⟨(finishCommand accepts handler.requested pending (written pending)).1,
        handler.executions.set index ⟨pending, standingOf (written pending)⟩⟩
  | _ => handler

def Handler.step (handler : Handler) (step : HandlerStep) : Handler :=
  match step with
  | .start env accepts topic frame => handler.start env accepts topic frame
  | .finish index accepts cache now south =>
      handler.finish index accepts fun pending => (pending.execute cache now south).result

/-- A call whose write fails was not overtaken and replaced a request that still stands, or it
was overtaken by a different value. -/
def CleanFailure (initial : Requested) (handler : Handler) (step : HandlerStep) : Prop :=
  match step with
  | .start _ _ _ _ => True
  | .finish index _ cache now south =>
      match handler.executions[index]? with
      | some ⟨pending, .pending⟩ =>
          standingOf (pending.execute cache now south).result = .undone →
            CleanUndo initial ((handler.executions.take index).map Execution.entry)
              (Execution.entry ⟨pending, .pending⟩)
              ((handler.executions.drop (index + 1)).map Execution.entry)
      | _ => True

def Tracks (initial : Requested) (handler : Handler) : Prop :=
  Agrees initial handler.requested (handler.executions.map Execution.entry)

theorem restore_eq_undo (requested : Requested) (pending : Pending) (standing : Standing) :
    restore requested pending.deviceId pending.channelKey pending.value pending.previous =
      undo requested (Execution.entry ⟨pending, standing⟩) := by
  unfold restore undo
  by_cases ours : requested (pending.deviceId, pending.channelKey) = some pending.value
  · simp [ours, Execution.entry, Execution.key]
  · simp [ours, Execution.entry, Execution.key]

theorem Tracks.start {initial : Requested} {handler : Handler} (tracks : Tracks initial handler)
    (env : CommandEnv) (accepts : Broker) (topic : String) (frame : Option CommandFrame) :
    Tracks initial (handler.start env accepts topic frame) := by
  unfold Handler.start
  rcases beginCommand_cases env accepts handler.requested topic frame with
    ⟨result, settled⟩ | ⟨pending, answers, writing⟩
  · rw [settled]
    exact tracks
  · rw [writing]
    have recorded := Agrees.record tracks (pending.deviceId, pending.channelKey) pending.value
    rw [← answers.previous] at recorded
    simpa [Tracks, Execution.entry, Execution.key] using recorded

theorem Tracks.finish {initial : Requested} {handler : Handler} (tracks : Tracks initial handler)
    {index : ℕ} (accepts : Broker) {written : Pending → Except String Unit}
    (clean : ∀ pending, handler.executions[index]? = some ⟨pending, .pending⟩ →
      standingOf (written pending) = .undone →
      CleanUndo initial ((handler.executions.take index).map Execution.entry)
        (Execution.entry ⟨pending, .pending⟩)
        ((handler.executions.drop (index + 1)).map Execution.entry)) :
    Tracks initial (handler.finish index accepts written) := by
  unfold Handler.finish
  split
  · rename_i pending found
    obtain ⟨bound, same⟩ := List.getElem?_eq_some_iff.mp found
    have split : handler.executions.map Execution.entry =
        (handler.executions.take index).map Execution.entry ++
          Execution.entry ⟨pending, .pending⟩ ::
            (handler.executions.drop (index + 1)).map Execution.entry := by
      rw [← List.map_cons, ← List.map_append, ← same, ← List.drop_eq_getElem_cons bound,
        List.take_append_drop]
    rw [Tracks, split] at tracks
    simp only [Tracks, List.set_eq_take_append_cons_drop, bound, if_true, List.map_append,
      List.map_cons]
    cases outcome : written pending with
    | ok _ => exact tracks.keep rfl
    | error message =>
        have undone := tracks.undo rfl (clean pending found (by rw [outcome]; rfl))
        rw [← restore_eq_undo] at undone
        exact undone
  · exact tracks

theorem Tracks.step {initial : Requested} (handler : Handler) (step : HandlerStep)
    (tracks : Tracks initial handler) (clean : CleanFailure initial handler step) :
    Tracks initial (handler.step step) := by
  cases step with
  | start env accepts topic frame => exact tracks.start env accepts topic frame
  | finish index accepts cache now south =>
      apply tracks.finish accepts
      intro pending found undone
      simp only [CleanFailure, found] at clean
      exact clean undone

def lastSucceeded (executions : List Execution) (key : String × String) : Option ℚ :=
  ((executions.filter fun execution =>
      execution.key = key ∧ execution.standing = .kept).getLast?).map
    fun execution => execution.pending.value

theorem newest_eq_lastSucceeded {executions : List Execution}
    (finished : ∀ execution ∈ executions, execution.standing ≠ .pending) (key : String × String) :
    newest (executions.map Execution.entry) key = lastSucceeded executions key := by
  induction executions with
  | nil => rfl
  | cons execution rest ih =>
      have later := ih fun other member => finished other (List.mem_cons_of_mem _ member)
      have settled := finished execution List.mem_cons_self
      rw [List.map_cons, newest, later]
      by_cases counts : execution.key = key ∧ execution.standing = .kept
      · have value : execution.entry.at key = some execution.pending.value := by
          simp [Entry.at, Execution.entry, counts]
        have first : (execution :: rest).filter
            (fun execution => execution.key = key ∧ execution.standing = .kept) =
              execution :: rest.filter
                (fun execution => execution.key = key ∧ execution.standing = .kept) :=
          List.filter_cons_of_pos (by simpa using counts)
        rw [value, lastSucceeded, lastSucceeded, first, List.getLast?_cons]
        cases (rest.filter fun execution =>
          execution.key = key ∧ execution.standing = .kept).getLast? with
        | none => rfl
        | some last => rfl
      · have absent : execution.entry.at key = none := by
          cases standing : execution.standing with
          | pending => exact absurd standing settled
          | undone => simp [Entry.at, Execution.entry, standing]
          | kept =>
              have elsewhere : execution.key ≠ key := fun same => counts ⟨same, standing⟩
              simp [Entry.at, Execution.entry, elsewhere]
        have skipped : (execution :: rest).filter
            (fun execution => execution.key = key ∧ execution.standing = .kept) =
              rest.filter (fun execution => execution.key = key ∧ execution.standing = .kept) :=
          List.filter_cons_of_neg (by simpa using counts)
        rw [absent, Option.or_none, lastSucceeded, lastSucceeded, skipped]

/-- Once every call has finished, a request is that of the last-recorded call that succeeded,
or what it was before any of them. -/
theorem refused_setpoint_never_left {initial : Requested} {steps : List HandlerStep}
    (clean : Along Handler.step (CleanFailure initial) (Handler.idle initial) steps)
    (finished : ∀ execution ∈ (run Handler.step (Handler.idle initial) steps).executions,
      execution.standing ≠ .pending) (deviceId key : String) :
    (run Handler.step (Handler.idle initial) steps).requested (deviceId, key) =
      (lastSucceeded (run Handler.step (Handler.idle initial) steps).executions
        (deviceId, key)).or (initial (deviceId, key)) := by
  have tracks : Tracks initial (run Handler.step (Handler.idle initial) steps) := by
    refine run_invariant (Tracks initial) Tracks.step ?_ clean
    intro other
    rfl
  rw [tracks (deviceId, key), newest_eq_lastSucceeded finished]

/-! A module `m` whose setpoint goes out over Modbus, with the wire up or down. -/

def moduleEnv : CommandEnv :=
  { siteId := "s1"
    channels := fun deviceId =>
      if deviceId = "m" then
        some fun key => if key = "set_active_power" then some .modbusTcp else none
      else none
    locked := ∅ }

def commandModule (value : ℚ) : HandlerStep :=
  .start moduleEnv (fun _ => true) "sites/s1/devices/m/commands/set/active_power/watts"
    (some ⟨value, "c"⟩)

def settle (index : ℕ) (up : Bool) : HandlerStep :=
  .finish index (fun _ => true) (fun _ => none) 0
    fun _ => if up then .ok () else .error "connection refused"

instance (initial : Requested) (handler : Handler) (step : HandlerStep) :
    Decidable (CleanFailure initial handler step) :=
  match step with
  | .start _ _ _ _ => .isTrue trivial
  | .finish index _ cache now south =>
      match found : handler.executions[index]? with
      | some ⟨pending, .pending⟩ =>
          decidable_of_iff
            (standingOf (pending.execute cache now south).result = .undone →
              CleanUndo initial ((handler.executions.take index).map Execution.entry)
                (Execution.entry ⟨pending, .pending⟩)
                ((handler.executions.drop (index + 1)).map Execution.entry))
            (by simp [CleanFailure, found])
      | some ⟨_, .kept⟩ => .isTrue (by simp [CleanFailure, found])
      | some ⟨_, .undone⟩ => .isTrue (by simp [CleanFailure, found])
      | none => .isTrue (by simp [CleanFailure, found])

theorem refused_setpoint_never_left_overlap :
    (run Handler.step (Handler.idle fun _ => none)
      [commandModule 1, commandModule 2, settle 1 false, settle 0 true]).requested
        ("m", "set_active_power") = some 1 := by
  rw [refused_setpoint_never_left (by decide +kernel) (by decide +kernel)]
  decide +kernel

/-- Two overlapping commands fail, the earlier one first: it finds the later one's value and
leaves it, and the later one then puts the earlier, refused value back. -/
theorem refused_setpoint_left_by_two_failures :
    ¬∀ (initial : Requested) (steps : List HandlerStep),
      (∀ execution ∈ (run Handler.step (Handler.idle initial) steps).executions,
        execution.standing ≠ .pending) →
      ∀ deviceId key, (run Handler.step (Handler.idle initial) steps).requested (deviceId, key) =
        (lastSucceeded (run Handler.step (Handler.idle initial) steps).executions
          (deviceId, key)).or (initial (deviceId, key)) := by
  intro claimed
  have refused := claimed (fun _ => none)
    [commandModule 1, commandModule 2, settle 0 false, settle 1 false] (by decide +kernel)
    "m" "set_active_power"
  revert refused
  decide +kernel

end EmsGateway.Dispatch
