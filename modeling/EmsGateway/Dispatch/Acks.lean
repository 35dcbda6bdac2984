import EmsGateway.Dispatch.CommandCore
import EmsGateway.Library.Runs

/-!
What the operator's page sees of its commands. Any number of commands are handled at a time, by the
subscriber and by site distribution; each call publishes that it was received and later, with other
calls in between, how it ended. The broker retains the last event of a device. The log has the
newest event first, each under the number of its call.
-/

namespace EmsGateway.Dispatch

open EmsGateway.Asyncapi EmsGateway.Library

/-! The events of one command -/

/-- How a command is answered up to its write. -/
inductive Answer where
  | dropped
  | rejected (received failed : DispatchEvent)
  | writing (received : DispatchEvent) (pending : Pending)

def answer (env : CommandEnv) (requested : Requested) (topic : String)
    (frame : Option CommandFrame) : Answer :=
  match parseCommandTopic topic env.siteId with
  | none => .dropped
  | some command =>
      match env.channels command.deviceId, frame with
      | none, _ => .dropped
      | some _, none => .dropped
      | some commands, some frame =>
          let deviceId := command.deviceId
          let event := fun phase reason =>
            (⟨eventTopic env.siteId deviceId, frame.commandId, phase, reason⟩ : DispatchEvent)
          let channelKey := command.verb ++ "_" ++ command.target
          let reject := fun reason =>
            Answer.rejected (event .received none) (event .failed (some reason))
          if deviceId ∈ env.locked then reject s!"device {deviceId} is locked out"
          else
            match commands channelKey with
            | none => reject s!"unknown command {channelKey} for device {deviceId}"
            | some binding =>
                .writing (event .received none) {
                  env := env
                  deviceId := deviceId
                  channelKey := channelKey
                  commandId := frame.commandId
                  binding := binding
                  value := frame.value
                  previous := requested (deviceId, channelKey) }

/-- The command handler publishes these events and takes up the write. -/
theorem beginCommand_answer (env : CommandEnv) (accepts : Broker) (requested : Requested)
    (topic : String) (frame : Option CommandFrame) :
    beginCommand env accepts requested topic frame =
      match answer env requested topic frame with
      | .dropped => (requested, .settled (.ok ()))
      | .rejected received failed =>
          (requested, .settled ((publishEvent accepts received).bind fun _ =>
            publishEvent accepts failed))
      | .writing received pending =>
          match publishEvent accepts received with
          | .error message => (requested, .settled (.error message))
          | .ok () =>
              ((record requested pending.deviceId pending.channelKey pending.value).1,
                .writing pending) := by
  unfold beginCommand answer
  cases parseCommandTopic topic env.siteId with
  | none => rfl
  | some command =>
      dsimp only
      cases env.channels command.deviceId with
      | none => rfl
      | some commands =>
          cases frame with
          | none => rfl
          | some frame =>
              dsimp only
              cases heard : publishEvent accepts ⟨eventTopic env.siteId command.deviceId,
                  frame.commandId, .received, none⟩ with
              | error message =>
                  by_cases locked : command.deviceId ∈ env.locked
                  · simp [locked, heard, Except.bind]
                  · cases commands (command.verb ++ "_" ++ command.target) with
                    | none => simp [locked, heard, Except.bind]
                    | some binding => simp [locked, heard]
              | ok done =>
                  by_cases locked : command.deviceId ∈ env.locked
                  · simp [locked, heard, Except.bind]
                  · cases commands (command.verb ++ "_" ++ command.target) with
                    | none => simp [locked, heard, Except.bind]
                    | some binding => simp [locked, heard, record]

/-- The event that ends a written command. -/
def Pending.final (pending : Pending) (written : Except String Unit) : DispatchEvent :=
  match written with
  | .ok () => pending.event .done none
  | .error message => pending.event .failed (some message)

def Pending.settle (pending : Pending) (requested : Requested) (written : Except String Unit) :
    Requested :=
  match written with
  | .ok () => requested
  | .error _ =>
      restore requested pending.deviceId pending.channelKey pending.value pending.previous

theorem finishCommand_final (accepts : Broker) (requested : Requested) (pending : Pending)
    (written : Except String Unit) : finishCommand accepts requested pending written =
      (pending.settle requested written, publishEvent accepts (pending.final written)) := by
  cases written with
  | ok done => rfl
  | error message => rfl

/-! Commands side by side -/

structure Ran where
  south : South
  executed : Executed

inductive Stage where
  | writing (pending : Pending)
  | acking (final : DispatchEvent)
  | over

structure Call where
  stage : Stage
  ran : Option Ran

structure Desk where
  requested : Requested
  calls : List Call
  log : List (ℕ × DispatchEvent)

namespace Desk

def idle (requested : Requested) : Desk := ⟨requested, [], []⟩

inductive Step where
  | start (env : CommandEnv) (accepts : Broker) (topic : String) (frame : Option CommandFrame)
  | write (index : ℕ) (cache : InputCache) (now : Instant) (south : South)
  | ack (index : ℕ) (accepts : Broker)

def opens (desk : Desk) (accepts : Broker) (received : DispatchEvent) (stage : Stage)
    (requested : Requested) : Desk :=
  if accepts received then
    { requested := requested
      calls := desk.calls ++ [⟨stage, none⟩]
      log := (desk.calls.length, received) :: desk.log }
  else { desk with calls := desk.calls ++ [⟨.over, none⟩] }

def step (desk : Desk) (step : Step) : Desk :=
  match step with
  | .start env accepts topic frame =>
      match answer env desk.requested topic frame with
      | .dropped => desk
      | .rejected received failed => desk.opens accepts received (.acking failed) desk.requested
      | .writing received pending =>
          desk.opens accepts received (.writing pending)
            (record desk.requested pending.deviceId pending.channelKey pending.value).1
  | .write index cache now south =>
      match desk.calls[index]? with
      | some ⟨.writing pending, _⟩ =>
          let executed := pending.execute cache now south
          { desk with
            requested := pending.settle desk.requested executed.result
            calls := desk.calls.set index
              ⟨.acking (pending.final executed.result), some ⟨south, executed⟩⟩ }
      | _ => desk
  | .ack index accepts =>
      match desk.calls[index]? with
      | some ⟨.acking final, ran⟩ =>
          { desk with
            calls := desk.calls.set index ⟨.over, ran⟩
            log := if accepts final then (index, final) :: desk.log else desk.log }
      | _ => desk

/-- What call `index` has published, the newest first. -/
def eventsOf (desk : Desk) (index : ℕ) : List DispatchEvent :=
  (desk.log.filter fun entry => entry.1 = index).map Prod.snd

/-- What the broker retains for a device. -/
def retained (desk : Desk) (topic : String) : Option (ℕ × DispatchEvent) :=
  desk.log.find? fun entry => entry.2.topic = topic

end Desk

/-! What a command writes -/

section Writes

variable {channels : DeviceChannels} {key : String} {south : South} {locked : Finset String}

def Executed.Truthful (executed : Executed) (south : South) : Prop :=
  executed.result = .ok () → ∀ write ∈ executed.started, south write = .ok ()

theorem truthful_attempt (write : Write) : (attempt south write).Truthful south := by
  intro ok other started
  rw [List.mem_singleton.mp started]
  exact ok

theorem truthful_refuse (message : String) : (refuse message).Truthful south := by
  intro ok
  exact absurd ok (by simp [refuse])

theorem truthful_writeShare (deviceId : String) (share : ℚ) :
    (writeShare channels key south deviceId share).Truthful south := by
  have written : ∀ write : Write, (match south write with
      | .ok () => .ok ()
      | .error _ => .error s!"write to child {deviceId} failed" : Except String Unit) = .ok () →
        ∀ other ∈ [write], south other = .ok () := by
    intro write ok other started
    rw [List.mem_singleton.mp started]
    split at ok
    · assumption
    · exact absurd ok (by simp)
  unfold writeShare
  dsimp only
  split
  · exact truthful_refuse _
  · exact written _
  · exact written _
  · exact truthful_refuse _

theorem truthful_writeShares (shares : List (String × ℚ)) :
    (writeShares channels key south shares).Truthful south := by
  induction shares with
  | nil => exact fun _ write started => absurd started List.not_mem_nil
  | cons share rest ih =>
      unfold writeShares
      dsimp only
      split
      · rename_i first
        intro ok write started
        rcases List.mem_append.mp started with own | later
        · exact truthful_writeShare share.1 share.2 first write own
        · exact ih ok write later
      · intro ok
        exact absurd ok (by simp)

theorem truthful_writeOne (cap : String × String × ℚ) :
    (writeOne channels south cap).Truthful south := by
  unfold writeOne
  dsimp only
  split
  · exact truthful_attempt _
  · exact truthful_refuse _
  · exact truthful_refuse _

theorem truthful_writeCaps (caps : List (String × String × ℚ)) :
    (writeCaps caps channels locked south).Truthful south := by
  intro ok write started
  obtain ⟨cap, kept, own⟩ := List.mem_flatMap.mp started
  refine truthful_writeOne cap ?_ write own
  have none :
      (caps.filter fun cap => cap.1 ∉ locked).filterMap (failedCap channels south) = [] := by
    unfold writeCaps at ok
    dsimp only at ok
    split at ok
    · rename_i empty
      exact List.isEmpty_iff.mp empty
    · exact absurd ok (by simp)
  have landed := List.filterMap_eq_nil_iff.mp none cap kept
  unfold failedCap at landed
  split at landed
  · assumption
  · exact absurd landed (by simp)

theorem truthful_dispatchDistribute {binding : DistributeBinding} {target : ℚ} {siteId : String}
    {cache : InputCache} {now : Instant} :
    (dispatchDistribute binding target key siteId channels locked cache now south).Truthful
      south := by
  unfold dispatchDistribute
  split
  · exact fun _ write started => absurd started List.not_mem_nil
  · split
    · exact truthful_refuse _
    · rename_i shares computed
      dsimp only
      split
      · exact fun ok => absurd ok (by simp)
      · split
        · exact fun ok => absurd ok (by simp)
        · exact truthful_writeShares shares

/-- A command that went well had every write it started accepted. -/
theorem truthful_executeSetpoint {binding : ProtocolBinding} {value : ℚ} {deviceId siteId : String}
    {cache : InputCache} {now : Instant} :
    (executeSetpoint binding value deviceId key siteId channels locked cache now south).Truthful
      south := by
  unfold executeSetpoint
  split
  · exact truthful_attempt _
  · exact truthful_attempt _
  · split
    · exact truthful_attempt _
    · exact truthful_refuse _
  · exact truthful_attempt _
  · exact truthful_writeCaps _
  · exact truthful_dispatchDistribute
  · exact truthful_refuse _

end Writes

namespace Desk

/-! One call -/

structure Answers (received final : DispatchEvent) : Prop where
  opened : received.phase = .received
  ended : final.phase ≠ .received
  topic : final.topic = received.topic
  command : final.commandId = received.commandId

/-- Nothing is said to be done that the devices did not all accept. -/
def Truthful (ran : Option Ran) (final : DispatchEvent) : Prop :=
  final.phase = .done → ∃ r, ran = some r ∧ r.executed.result = .ok () ∧
    ∀ write ∈ r.executed.started, r.south write = .ok ()

/-- Nothing, or that the command was received, or that and then once how it ended. -/
def Acked (ran : Option Ran) (events : List DispatchEvent) : Prop :=
  events = [] ∨ ∃ received, received.phase = .received ∧ (events = [received] ∨
    ∃ final, Answers received final ∧ Truthful ran final ∧ events = [final, received])

def Call.Sound (call : Call) (events : List DispatchEvent) : Prop :=
  match call.stage with
  | .writing pending => events = [pending.event .received none] ∧ call.ran = none
  | .acking final =>
      ∃ received, Answers received final ∧ Truthful call.ran final ∧ events = [received]
  | .over => Acked call.ran events

structure Sound (desk : Desk) : Prop where
  calls : ∀ index call, desk.calls[index]? = some call → Call.Sound call (desk.eventsOf index)
  logged : ∀ entry ∈ desk.log, entry.1 < desk.calls.length

section Steps

variable {desk : Desk}

theorem eventsOf_cons (desk : Desk) (calls : List Call) (requested : Requested) (index : ℕ)
    (event : DispatchEvent) (other : ℕ) :
    eventsOf ⟨requested, calls, (index, event) :: desk.log⟩ other =
      if index = other then event :: desk.eventsOf other else desk.eventsOf other := by
  unfold eventsOf
  dsimp only
  by_cases same : index = other
  · rw [if_pos same, List.filter_cons_of_pos (by simpa using same), List.map_cons]
  · rw [if_neg same, List.filter_cons_of_neg (by simpa using same)]

/-- A call that has not begun has published nothing. -/
theorem Sound.unborn (sound : Sound desk) : desk.eventsOf desk.calls.length = [] := by
  unfold eventsOf
  rw [List.map_eq_nil_iff, List.filter_eq_nil_iff]
  intro entry member same
  have less := sound.logged entry member
  rw [of_decide_eq_true same] at less
  exact absurd less (lt_irrefl _)

theorem answers_rejected {env : CommandEnv} {requested : Requested} {topic : String}
    {frame : Option CommandFrame} {received failed : DispatchEvent}
    (answered : answer env requested topic frame = .rejected received failed) :
    Answers received failed ∧ failed.phase = .failed := by
  unfold answer at answered
  split at answered
  · exact absurd answered (by simp)
  · dsimp only at answered
    split at answered
    · exact absurd answered (by simp)
    · exact absurd answered (by simp)
    · split at answered
      · obtain ⟨rfl, rfl⟩ := Answer.rejected.inj answered
        exact ⟨⟨rfl, by simp, rfl, rfl⟩, rfl⟩
      · split at answered
        · obtain ⟨rfl, rfl⟩ := Answer.rejected.inj answered
          exact ⟨⟨rfl, by simp, rfl, rfl⟩, rfl⟩
        · exact absurd answered (by simp)

theorem received_writing {env : CommandEnv} {requested : Requested} {topic : String}
    {frame : Option CommandFrame} {received : DispatchEvent} {pending : Pending}
    (answered : answer env requested topic frame = .writing received pending) :
    received = pending.event .received none := by
  unfold answer at answered
  split at answered
  · exact absurd answered (by simp)
  · dsimp only at answered
    split at answered
    · exact absurd answered (by simp)
    · exact absurd answered (by simp)
    · split at answered
      · exact absurd answered (by simp)
      · split at answered
        · exact absurd answered (by simp)
        · obtain ⟨rfl, rfl⟩ := Answer.writing.inj answered
          rfl

theorem answers_final (pending : Pending) (written : Except String Unit) :
    Answers (pending.event .received none) (pending.final written) := by
  cases written with
  | ok done => exact ⟨rfl, by simp [Pending.final, Pending.event], rfl, rfl⟩
  | error message => exact ⟨rfl, by simp [Pending.final, Pending.event], rfl, rfl⟩

theorem truthful_final (pending : Pending) (cache : InputCache) (now : Instant) (south : South) :
    Truthful (some ⟨south, pending.execute cache now south⟩)
      (pending.final (pending.execute cache now south).result) := by
  intro done
  have ok : (pending.execute cache now south).result = .ok () := by
    cases written : (pending.execute cache now south).result with
    | ok done => rfl
    | error message =>
        rw [written] at done
        exact absurd done (by simp [Pending.final, Pending.event])
  exact ⟨_, rfl, ok, truthful_executeSetpoint ok⟩

theorem Sound.opens (sound : Sound desk) (accepts : Broker) {received : DispatchEvent}
    {stage : Stage} (requested : Requested) (opened : Call.Sound ⟨stage, none⟩ [received]) :
    Sound (desk.opens accepts received stage requested) := by
  unfold Desk.opens
  split
  · refine ⟨?_, ?_⟩
    · intro index call found
      rw [eventsOf_cons]
      dsimp only at found
      rcases Nat.lt_trichotomy index desk.calls.length with before | rfl | after
      · rw [List.getElem?_append_left before] at found
        rw [if_neg before.ne']
        exact sound.calls index call found
      · rw [List.getElem?_append_right le_rfl, Nat.sub_self, List.getElem?_cons_zero,
          Option.some.injEq] at found
        rw [if_pos rfl, sound.unborn, ← found]
        exact opened
      · rw [List.getElem?_eq_none (by simpa using after)] at found
        exact absurd found (by simp)
    · intro entry member
      rw [List.length_append, List.length_singleton]
      rcases List.mem_cons.mp member with rfl | earlier
      · exact Nat.lt_succ_self _
      · exact Nat.lt_succ_of_lt (sound.logged entry earlier)
  · refine ⟨?_, ?_⟩
    · intro index call found
      dsimp only at found
      rcases Nat.lt_trichotomy index desk.calls.length with before | rfl | after
      · rw [List.getElem?_append_left before] at found
        exact sound.calls index call found
      · rw [List.getElem?_append_right le_rfl, Nat.sub_self, List.getElem?_cons_zero,
          Option.some.injEq] at found
        rw [← found]
        exact .inl sound.unborn
      · rw [List.getElem?_eq_none (by simpa using after)] at found
        exact absurd found (by simp)
    · intro entry member
      rw [List.length_append, List.length_singleton]
      exact Nat.lt_succ_of_lt (sound.logged entry member)

/-- A call moves on, and may publish one more event. -/
theorem Sound.move (sound : Sound desk) {index : ℕ} (begun : index < desk.calls.length)
    {call : Call} (requested : Requested) (events : List DispatchEvent)
    (moved : Call.Sound call (events ++ desk.eventsOf index)) :
    Sound ⟨requested, desk.calls.set index call,
      events.map (fun event => (index, event)) ++ desk.log⟩ := by
  have shown : ∀ other, eventsOf ⟨requested, desk.calls.set index call,
      events.map (fun event => (index, event)) ++ desk.log⟩ other =
        if index = other then events ++ desk.eventsOf other else desk.eventsOf other := by
    intro other
    unfold eventsOf
    dsimp only
    rw [List.filter_append, List.map_append]
    by_cases same : index = other
    · rw [if_pos same, List.filter_eq_self.mpr (by simp [same]), List.map_map]
      exact congrArg (· ++ _) (List.map_id' events)
    · rw [if_neg same, List.filter_eq_nil_iff.mpr (by simp [same])]
      rfl
  refine ⟨?_, ?_⟩
  · intro other stands found
    rw [shown]
    dsimp only at found
    by_cases same : index = other
    · subst same
      rw [List.getElem?_set_self begun, Option.some.injEq] at found
      rw [if_pos rfl, ← found]
      exact moved
    · rw [List.getElem?_set_ne same] at found
      rw [if_neg same]
      exact sound.calls other stands found
  · intro entry member
    rw [List.length_set]
    rcases List.mem_append.mp member with own | earlier
    · obtain ⟨event, _, rfl⟩ := List.mem_map.mp own
      exact begun
    · exact sound.logged entry earlier

theorem Sound.step (sound : Sound desk) (input : Step) : Sound (desk.step input) := by
  cases input with
  | start env accepts topic frame =>
      simp only [Desk.step]
      split
      · exact sound
      · rename_i received failed answered
        obtain ⟨answers, isFailed⟩ := answers_rejected answered
        refine sound.opens accepts _ ⟨received, answers, ?_, rfl⟩
        intro done
        rw [isFailed] at done
        exact absurd done (by simp)
      · rename_i received pending answered
        exact sound.opens accepts _ ⟨by rw [received_writing answered], rfl⟩
  | write index cache now south =>
      simp only [Desk.step]
      split
      · rename_i pending ran found
        obtain ⟨begun, _⟩ := List.getElem?_eq_some_iff.mp found
        obtain ⟨events, _⟩ := sound.calls index _ found
        refine sound.move begun _ [] ⟨_, answers_final pending _, ?_, events⟩
        exact truthful_final pending cache now south
      · exact sound
  | ack index accepts =>
      simp only [Desk.step]
      split
      · rename_i final ran found
        obtain ⟨begun, _⟩ := List.getElem?_eq_some_iff.mp found
        obtain ⟨received, answers, truthful, events⟩ := sound.calls index _ found
        split
        · refine sound.move begun desk.requested [final] (.inr ⟨received, answers.opened, .inr ?_⟩)
          exact ⟨final, answers, truthful, by rw [events]; rfl⟩
        · refine sound.move begun desk.requested [] (.inr ⟨received, answers.opened, .inl ?_⟩)
          exact events
      · exact sound

theorem sound_run (requested : Requested) (steps : List Step) :
    Sound (run Desk.step (idle requested) steps) := by
  have start : Sound (idle requested) := by
    refine ⟨?_, ?_⟩
    · intro index call found
      exact absurd found (by simp [idle])
    · intro entry member
      exact absurd member List.not_mem_nil
  exact run_invariant Sound (fun _ input sound _ => sound.step input) start
    (along_of_forall (fun _ _ => trivial) _ _)

end Steps

theorem Call.Sound.acked {call : Call} {events : List DispatchEvent}
    (sound : Call.Sound call events) : Acked call.ran events := by
  unfold Call.Sound at sound
  split at sound
  · exact .inr ⟨_, rfl, .inl sound.1⟩
  · obtain ⟨received, answers, _, events⟩ := sound
    exact .inr ⟨received, answers.opened, .inl events⟩
  · exact sound

/-- However many commands are handled at a time, each is acked in order and at most once: nothing,
or that it was received, or that and then one event more for the same command on the same topic. It
is said to be done only if every write it started was accepted by its device. -/
theorem command_acked_once (requested : Requested) (steps : List Step) (index : ℕ) :
    let desk := run Desk.step (idle requested) steps
    Acked ((desk.calls[index]?).bind Call.ran) (desk.eventsOf index) := by
  intro desk
  have sound := sound_run requested steps
  cases found : desk.calls[index]? with
  | some call => exact (sound.calls index call found).acked
  | none =>
      refine .inl ?_
      unfold eventsOf
      rw [List.map_eq_nil_iff, List.filter_eq_nil_iff]
      intro entry member same
      have less := sound.logged entry member
      rw [of_decide_eq_true same] at less
      exact absurd (List.getElem?_eq_none_iff.mp found) (not_le.mpr less)

/-! What the broker retains -/

/-- The broker takes every event that ends a command. -/
def AcksHeard (desk : Desk) (step : Step) : Prop :=
  match step with
  | .ack index accepts => ∀ final ran, desk.calls[index]? = some ⟨.acking final, ran⟩ →
      accepts final = true
  | _ => True

/-- A device left as having received a command is still waiting for its end. -/
def Awaited (desk : Desk) : Prop :=
  ∀ topic index event, desk.retained topic = some (index, event) → event.phase = .received →
    ∃ call, desk.calls[index]? = some call ∧ call.stage ≠ .over

section Retained

variable {desk : Desk}

theorem retained_cons (requested : Requested) (calls : List Call) (index : ℕ)
    (event : DispatchEvent) (topic : String) :
    retained ⟨requested, calls, (index, event) :: desk.log⟩ topic =
      if event.topic = topic then some (index, event) else desk.retained topic := by
  unfold retained
  dsimp only
  by_cases same : event.topic = topic
  · rw [if_pos same, List.find?_cons_of_pos (by simpa using same)]
  · rw [if_neg same, List.find?_cons_of_neg (by simpa using same)]

theorem mem_eventsOf_of_retained {topic : String} {index : ℕ} {event : DispatchEvent}
    (held : desk.retained topic = some (index, event)) :
    event ∈ desk.eventsOf index ∧ event.topic = topic := by
  refine ⟨List.mem_map.mpr ⟨(index, event), List.mem_filter.mpr ⟨List.mem_of_find?_eq_some held,
    by simp⟩, rfl⟩, ?_⟩
  simpa using List.find?_some held

theorem Awaited.opens (awaited : Awaited desk) (accepts : Broker) (received : DispatchEvent)
    {stage : Stage} (busy : stage ≠ .over) (requested : Requested) :
    Awaited (desk.opens accepts received stage requested) := by
  have older : ∀ (opened : Call) (topic : String) (index : ℕ) (event : DispatchEvent),
      desk.retained topic = some (index, event) → event.phase = .received →
        ∃ call, (desk.calls ++ [opened])[index]? = some call ∧ call.stage ≠ .over := by
    intro opened topic index event held open_
    obtain ⟨call, found, waits⟩ := awaited topic index event held open_
    exact ⟨call, List.getElem?_append_left (List.getElem?_eq_some_iff.mp found).1 ▸ found, waits⟩
  unfold Desk.opens
  split
  · intro topic index event held open_
    rw [retained_cons] at held
    split at held
    · obtain ⟨rfl, rfl⟩ := Prod.mk.inj (Option.some.inj held)
      exact ⟨⟨stage, none⟩, by simp, busy⟩
    · exact older _ topic index event held open_
  · intro topic index event held open_
    exact older _ topic index event held open_

theorem Awaited.step (awaited : Awaited desk) (sound : Sound desk) {input : Step}
    (heard : desk.AcksHeard input) : Awaited (desk.step input) := by
  cases input with
  | start env accepts topic frame =>
      simp only [Desk.step]
      split
      · exact awaited
      · exact awaited.opens accepts _ (by simp) _
      · exact awaited.opens accepts _ (by simp) _
  | write index cache now south =>
      simp only [Desk.step]
      split
      · rename_i pending ran found
        obtain ⟨begun, _⟩ := List.getElem?_eq_some_iff.mp found
        intro topic other event held open_
        obtain ⟨call, stands, waits⟩ := awaited topic other event held open_
        dsimp only
        by_cases same : index = other
        · subst same
          exact ⟨_, List.getElem?_set_self begun, by simp⟩
        · exact ⟨call, by rwa [List.getElem?_set_ne same], waits⟩
      · exact awaited
  | ack index accepts =>
      simp only [Desk.step]
      split
      · rename_i final ran found
        obtain ⟨received, answers, _, events⟩ := sound.calls index _ found
        rw [if_pos (heard final ran found)]
        intro topic other event held open_
        rw [retained_cons] at held
        split at held
        · obtain ⟨rfl, rfl⟩ := Prod.mk.inj (Option.some.inj held)
          exact absurd open_ answers.ended
        · rename_i elsewhere
          obtain ⟨call, stands, waits⟩ := awaited topic other event held open_
          have apart : index ≠ other := by
            rintro rfl
            -- the call's own event is on the topic it is acked on
            obtain ⟨member, onTopic⟩ := mem_eventsOf_of_retained held
            rw [events, List.mem_singleton] at member
            exact elsewhere (by rw [answers.topic, ← member, onTopic])
          exact ⟨call, by rwa [List.getElem?_set_ne apart], waits⟩
      · exact awaited

end Retained

end Desk

end EmsGateway.Dispatch
