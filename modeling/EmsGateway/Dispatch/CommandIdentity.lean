import EmsGateway.Asyncapi.CommandSource
import EmsGateway.Dispatch.Requested

/-!
Which binding a command topic executes. A topic is read up to its target, its verb and target are
joined to look the binding up, and a bit command's verb is split off that key again.
-/

namespace EmsGateway.Dispatch

open EmsGateway.Asyncapi

/-! Topics -/

theorem splitSlash_eq_splitOn (text : List Char) : splitSlash text = text.splitOn '/' := by
  induction text with
  | nil => rfl
  | cons c rest ih =>
      rw [splitSlash, List.splitOn_cons_eq_if_modifyHead, ih]
      by_cases slash : c = '/'
      · simp [slash]
      · cases pieces : rest.splitOn '/' with
        | nil => exact absurd pieces (List.splitOn_ne_nil '/' rest)
        | cons first others => simp [slash]

theorem slash_notMem_splitSlash {text piece : List Char} (member : piece ∈ splitSlash text) :
    '/' ∉ piece := by
  induction text generalizing piece with
  | nil => simp_all [splitSlash]
  | cons c rest ih =>
      rw [splitSlash] at member
      by_cases slash : c = '/'
      · rw [if_pos slash] at member
        rcases List.mem_cons.mp member with rfl | later
        · exact List.not_mem_nil
        · exact ih later
      · rw [if_neg slash] at member
        cases pieces : splitSlash rest with
        | nil => simp_all [Ne.symm slash]
        | cons first others =>
            rw [pieces] at member ih
            rcases List.mem_cons.mp member with rfl | later
            · rw [List.mem_cons, not_or]
              exact ⟨Ne.symm slash, ih List.mem_cons_self⟩
            · exact ih (List.mem_cons_of_mem _ later)

def CommandTopic.segments (command : CommandTopic) (siteId : String) (further : List String) :
    List String :=
  ["sites", siteId, "devices", command.deviceId, "commands", command.verb, command.target] ++
    further

structure CommandTopic.SpelledBy (command : CommandTopic) (siteId topic : String)
    (further : List String) : Prop where
  joined : topic = "/".intercalate (command.segments siteId further)
  apart : ∀ segment ∈ command.segments siteId further, '/' ∉ segment.toList
  device : command.deviceId ≠ ""
  verb : command.verb ≠ ""
  target : command.target ≠ ""

theorem map_ofList_splitSlash_eq_iff (topic : String) (segments : List String)
    (nonempty : segments ≠ []) :
    (splitSlash topic.toList).map String.ofList = segments ↔
      topic = "/".intercalate segments ∧ ∀ segment ∈ segments, '/' ∉ segment.toList := by
  constructor
  · rintro rfl
    refine ⟨?_, ?_⟩
    · rw [← String.toList_inj, String.toList_intercalate]
      simp [splitSlash_eq_splitOn]
    · intro segment member
      obtain ⟨piece, isPiece, rfl⟩ := List.mem_map.mp member
      rw [String.toList_ofList]
      exact slash_notMem_splitSlash isPiece
  · rintro ⟨rfl, apart⟩
    have pieces : (['/'].intercalate (segments.map String.toList)).splitOn '/' =
        segments.map String.toList :=
      List.splitOn_intercalate '/' (by simpa using apart) (by simpa using nonempty)
    rw [splitSlash_eq_splitOn, String.toList_intercalate]
    simp [pieces]

/-- A command topic is accepted exactly when it spells out its site, device, verb and target. -/
theorem parseCommandTopic_eq_some_iff (topic siteId : String) (command : CommandTopic) :
    parseCommandTopic topic siteId = some command ↔
      ∃ further, command.SpelledBy siteId topic further := by
  have reads : ∀ further, (splitSlash topic.toList).map String.ofList =
      command.segments siteId further ↔ topic = "/".intercalate (command.segments siteId further) ∧
        ∀ segment ∈ command.segments siteId further, '/' ∉ segment.toList :=
    fun further => map_ofList_splitSlash_eq_iff topic _ (by simp [CommandTopic.segments])
  unfold parseCommandTopic
  constructor
  · intro parsed
    split at parsed
    · next sites site devices deviceId commands verb target further pieces =>
      split at parsed
      · next fits =>
        obtain ⟨rfl, rfl, rfl, device, rfl, hasVerb, hasTarget⟩ := fits
        obtain rfl := Option.some.inj parsed
        obtain ⟨joined, apart⟩ := (reads further).mp pieces
        exact ⟨further, joined, apart, device, hasVerb, hasTarget⟩
      · exact absurd parsed (by simp)
    · exact absurd parsed (by simp)
  · rintro ⟨further, spelled⟩
    rw [(reads further).mpr ⟨spelled.joined, spelled.apart⟩]
    simp [CommandTopic.segments, spelled.device, spelled.verb, spelled.target]

/-! Keys -/

theorem verbOf_joined {verb : String} (plain : '_' ∉ verb.toList) (target : String) :
    verbOf (verb ++ "_" ++ target) = verb := by
  have untouched : ∀ c ∈ verb.toList, decide (c ≠ '_') = true := by
    intro c member
    exact decide_eq_true fun underscore => plain (underscore ▸ member)
  rw [verbOf, ← String.toList_inj, String.toList_ofList, String.toList_append,
    String.toList_append, List.append_assoc, List.takeWhile_append_of_pos untouched]
  simp

theorem joined_inj {verb otherVerb target otherTarget : String} (plain : '_' ∉ verb.toList)
    (otherPlain : '_' ∉ otherVerb.toList)
    (same : verb ++ "_" ++ target = otherVerb ++ "_" ++ otherTarget) :
    verb = otherVerb ∧ target = otherTarget := by
  have verbs : verb = otherVerb := by
    rw [← verbOf_joined plain target, same, verbOf_joined otherPlain]
  subst verbs
  exact ⟨rfl, by simpa using same⟩

/-! Execution -/

/-- The handler takes the topic as far as `execute_setpoint`. -/
def Reaches (siteId : String) (sources : CommandSources) (topic : String) (pending : Pending) :
    Prop :=
  ∃ locked accepts requested frame recorded,
    beginCommand ⟨siteId, deviceChannels sources, locked⟩ accepts requested topic frame =
      (recorded, .writing pending)

def Pending.Interprets (pending : Pending) (verb : String) : Prop :=
  ∀ bit, pending.binding = .sunspec (some bit) → ∀ cache now south,
    (∀ action, bitAction verb pending.value = .ok action → pending.execute cache now south =
      attempt south ⟨pending.deviceId, pending.channelKey, .bit action⟩) ∧
    ∀ message, bitAction verb pending.value = .error message →
      pending.execute cache now south = refuse message

/-- The command that is executed is the source's, and the source is the one the topic names by
its verb and target. -/
structure Pending.Executes (pending : Pending) (siteId : String) (sources : CommandSources)
    (topic : String) (command : CommandTopic) (source : CommandSource) : Prop where
  spelled : ∃ further, command.SpelledBy siteId topic further
  device : pending.deviceId = command.deviceId
  listed : sources.Lists command.deviceId source
  keyed : source.key = command.verb ++ "_" ++ command.target
  binding : pending.binding = source.binding
  named : '_' ∉ command.verb.toList → '_' ∉ source.verb.toList →
    source.verb = command.verb ∧ source.target = command.target
  interpreted : '_' ∉ command.verb.toList → pending.Interprets command.verb

theorem Reaches.answers {siteId topic : String} {sources : CommandSources} {pending : Pending}
    (reached : Reaches siteId sources topic pending) :
    ∃ locked requested frame,
      pending.Answers ⟨siteId, deviceChannels sources, locked⟩ requested topic frame := by
  obtain ⟨locked, accepts, requested, frame, recorded, writing⟩ := reached
  rcases beginCommand_cases ⟨siteId, deviceChannels sources, locked⟩ accepts requested topic
    frame with ⟨result, settled⟩ | ⟨other, answers, begun⟩
  · rw [settled] at writing
    exact absurd (Prod.ext_iff.mp writing).2 (by simp)
  · rw [begun] at writing
    have same : other = pending := by simpa using (Prod.ext_iff.mp writing).2
    exact ⟨locked, requested, frame, same ▸ answers⟩

theorem command_executes_named_binding {siteId topic : String} {sources : CommandSources}
    {pending : Pending} (reached : Reaches siteId sources topic pending) :
    ∃ command source, pending.Executes siteId sources topic command source := by
  obtain ⟨locked, requested, frame, answers⟩ := reached.answers
  obtain ⟨command, parsed, device, key⟩ := answers.command
  obtain ⟨bindings, resolved, found⟩ := answers.bound
  obtain ⟨source, listed, keyed, bound⟩ := deviceChannels_lists resolved found
  refine ⟨command, source, ?_⟩
  refine ⟨(parseCommandTopic_eq_some_iff topic siteId command).mp parsed, device,
    device ▸ listed, keyed.trans key, bound.symm, ?_, ?_⟩
  · intro plain sourcePlain
    exact joined_inj sourcePlain plain (keyed.trans key)
  · intro plain bit isBit cache now south
    have verb : verbOf pending.channelKey = command.verb := by
      rw [key, verbOf_joined plain]
    refine ⟨?_, ?_⟩
    · intro action asked
      simp [Pending.execute, executeSetpoint, isBit, verb, asked]
    · intro message refused
      simp [Pending.execute, executeSetpoint, isBit, verb, refused]

/-! A converter whose output is one bit of its command word. -/

def enableOutput : CommandSource := ⟨"enable", "output", "state", .sunspec (some 0)⟩

def converterSources : CommandSources := fun deviceId =>
  if deviceId = "pcs" then some [("enable_output", enableOutput)] else none

def enabling : Pending :=
  { env := ⟨"s1", deviceChannels converterSources, ∅⟩
    deviceId := "pcs"
    channelKey := "enable" ++ "_" ++ "output"
    commandId := "c1"
    binding := .sunspec (some 0)
    value := 1
    previous := none }

theorem reaches_enabling {topic : String}
    (parsed : parseCommandTopic topic "s1" = some ⟨"pcs", "enable", "output"⟩) :
    Reaches "s1" converterSources topic enabling := by
  refine ⟨∅, fun _ => true, fun _ => none, some ⟨1, "c1"⟩,
    (record (fun _ => none) "pcs" enabling.channelKey 1).1, ?_⟩
  unfold beginCommand
  rw [parsed]
  rfl

theorem command_executes_named_binding_enable :
    ∃ command source, enabling.Executes "s1" converterSources
      "sites/s1/devices/pcs/commands/enable/output/state" command source :=
  command_executes_named_binding (reaches_enabling (by decide +kernel))

/-- A command is told apart by its verb and target alone, so it runs whatever unit is named. -/
theorem command_executed_for_another_unit :
    ¬∀ siteId sources topic pending, Reaches siteId sources topic pending →
      ∃ (command : CommandTopic) (unit : String) (source : CommandSource),
        command.SpelledBy siteId topic [unit] ∧ unit ≠ "" ∧
        sources.Lists command.deviceId source ∧ source.verb = command.verb ∧
        source.target = command.target ∧ source.unit = unit ∧
        pending.binding = source.binding ∧ pending.Interprets command.verb := by
  intro claimed
  obtain ⟨command, unit, source, spelled, -, ⟨commands, listed, member⟩, verb, target, named, -⟩ :=
    claimed "s1" converterSources "sites/s1/devices/pcs/commands/enable/output/watts" enabling
      (reaches_enabling (by decide +kernel))
  unfold converterSources at listed
  split at listed
  · next isPcs =>
    obtain rfl := Option.some.inj listed
    obtain rfl : source = enableOutput := by simpa using member
    have joined := spelled.joined
    rw [CommandTopic.segments, isPcs, ← verb, ← target, ← named] at joined
    revert joined
    decide +kernel
  · exact absurd listed (by simp)

end EmsGateway.Dispatch
