import EmsGateway.DerDispatch.SiteDistributionCore
import EmsGateway.Dispatch.Requested

/-!
The two things a module command can do to the requests: set the module's own setpoint, or
nothing at all. Ids that are one segment of a topic reach the device they name.
-/

namespace EmsGateway.DerDispatch

open EmsGateway.Dispatch EmsGateway.Library

theorem splitSlash_append {segment : List Char} (plain : '/' ∉ segment) (rest : List Char) :
    splitSlash (segment ++ '/' :: rest) = segment :: splitSlash rest := by
  induction segment with
  | nil => simp [splitSlash]
  | cons c others ih =>
      simp only [List.mem_cons, not_or] at plain
      rw [List.cons_append, splitSlash, if_neg (Ne.symm plain.1), ih plain.2]

def IsSegment (id : String) : Prop := id ≠ "" ∧ '/' ∉ id.toList

theorem moduleTopic_eq (siteId moduleId : String) : moduleTopic siteId moduleId =
    "sites/" ++ siteId ++ "/devices/" ++ moduleId ++ "/commands/set/active_power/watts" := rfl

theorem parse_moduleTopic {siteId moduleId : String} (site : IsSegment siteId)
    (segment : IsSegment moduleId) :
    parseCommandTopic (moduleTopic siteId moduleId) siteId =
      some ⟨moduleId, "set", "active_power"⟩ := by
  have pieces : (moduleTopic siteId moduleId).toList =
      "sites".toList ++ '/' :: (siteId.toList ++ '/' :: ("devices".toList ++ '/' ::
        (moduleId.toList ++ '/' :: ("commands".toList ++ '/' :: ("set".toList ++ '/' ::
          ("active_power".toList ++ '/' :: "watts".toList)))))) := by
    rw [moduleTopic_eq]
    simp
  unfold parseCommandTopic
  rw [pieces, splitSlash_append (by decide), splitSlash_append site.2,
    splitSlash_append (by decide), splitSlash_append segment.2, splitSlash_append (by decide),
    splitSlash_append (by decide), splitSlash_append (by decide)]
  simp [segment.1]

def applies (siteId : String) (call : Call) (requested : Requested) (moduleId : String)
    (share : ℚ) : Bool :=
  match (beginCommand ⟨siteId, call.channels, call.locked⟩ call.accepts requested
    (moduleTopic siteId moduleId) (some ⟨share, call.commandId⟩)).2 with
  | .settled _ => false
  | .writing pending => (pending.execute call.cache call.now call.south).result.isOk

def setRequest (requested : Requested) (moduleId : String) (value : ℚ) : Requested :=
  Function.update requested (moduleId, channelKey) (some value)

@[simp] theorem operatorSetpoints_setRequest (requested : Requested) (moduleId : String)
    (value : ℚ) : operatorSetpoints (setRequest requested moduleId value) moduleId =
      some value := by
  simp [operatorSetpoints, setRequest]

theorem operatorSetpoints_setRequest_of_ne {requested : Requested} {moduleId other : String}
    (value : ℚ) (different : other ≠ moduleId) :
    operatorSetpoints (setRequest requested moduleId value) other =
      operatorSetpoints requested other := by
  simp [operatorSetpoints, setRequest, different]

theorem operatorSetpoints_ite_of_ne (requested : Requested) {moduleId other : String}
    (applied : Bool) (value : ℚ) (different : other ≠ moduleId) :
    operatorSetpoints (if applied then setRequest requested moduleId value else requested) other =
      operatorSetpoints requested other := by
  split
  · exact operatorSetpoints_setRequest_of_ne value different
  · rfl

theorem dispatchOne_requested {siteId moduleId : String} (site : IsSegment siteId)
    (segment : IsSegment moduleId) (call : Call) (requested : Requested) (share : ℚ) :
    (dispatchOne siteId call requested moduleId share).1 =
      if applies siteId call requested moduleId share then setRequest requested moduleId share
      else requested := by
  unfold dispatchOne applies handleCommand
  rcases beginCommand_cases ⟨siteId, call.channels, call.locked⟩ call.accepts requested
      (moduleTopic siteId moduleId) (some ⟨share, call.commandId⟩) with
    ⟨result, settled⟩ | ⟨pending, answers, writing⟩
  · rw [settled]
    rfl
  · rw [writing]
    obtain ⟨command, parsed, deviceId, key⟩ := answers.command
    have value := answers.value
    rw [parse_moduleTopic site segment, Option.some.injEq] at parsed
    simp only [Option.map_some, Option.some.injEq] at value
    dsimp only
    by_cases succeeded : (pending.execute call.cache call.now call.south).result.isOk = true
    · obtain ⟨done, written⟩ := exists_of_isOk succeeded
      rw [if_pos succeeded, written, deviceId, key, ← value, ← parsed]
      rfl
    · rw [if_neg succeeded]
      obtain ⟨message, written⟩ := exists_of_not_isOk succeeded
      simp only [written, finishCommand, answers.previous]
      exact restore_record requested pending.deviceId pending.channelKey pending.value

/-- What is requested so far decides neither whether a command is applied nor how it is acked. -/
theorem command_independent (siteId : String) (call : Call) (requested other : Requested)
    (moduleId : String) (share : ℚ) :
    applies siteId call other moduleId share = applies siteId call requested moduleId share ∧
      (dispatchOne siteId call other moduleId share).2 =
        (dispatchOne siteId call requested moduleId share).2 := by
  unfold applies dispatchOne handleCommand
  rcases beginCommand_uniform ⟨siteId, call.channels, call.locked⟩ call.accepts
      (moduleTopic siteId moduleId) (some ⟨share, call.commandId⟩) with
    ⟨result, settled⟩ | ⟨pending, writing⟩
  · rw [settled, settled]
    exact ⟨rfl, rfl⟩
  · rw [(writing requested).2, (writing other).2]
    refine ⟨rfl, ?_⟩
    have same : (pending.replacing other).execute call.cache call.now call.south =
        (pending.replacing requested).execute call.cache call.now call.south := rfl
    dsimp only
    rw [same]
    cases ((pending.replacing requested).execute call.cache call.now call.south).result with
    | ok done => rfl
    | error message => rfl

end EmsGateway.DerDispatch
