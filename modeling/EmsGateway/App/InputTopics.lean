import EmsGateway.App.TaskSetCore

/-!
Every topic that a task looks up is subscribed, except where a guard's template survives its first
substitution: `spawn_task_set` puts the site id in, and `tick_once` puts it in again, while
`input_topics` does so once. What a task makes of the cache depends on the topics it looks up and
on nothing else.
-/

namespace EmsGateway.App

open EmsGateway.Asyncapi EmsGateway.DerDispatch EmsGateway.Dispatch EmsGateway.Envelope
open EmsGateway.Library EmsGateway.Loto

/-! The placeholder -/

def placeholder : List Char := "\x7bsite_id\x7d".toList

def PlaceholderFree (text : String) : Prop := ¬placeholder <:+: text.toList

instance (text : String) : Decidable (PlaceholderFree text) :=
  inferInstanceAs (Decidable (¬placeholder <:+: text.toList))

variable {pattern replacement : List Char}

theorem replaceFrom_of_absent {text : List Char} (absent : ¬pattern <:+: text) :
    replaceFrom pattern replacement 0 text = text := by
  induction text with
  | nil => rfl
  | cons c rest ih =>
      have noPrefix : ¬pattern.isPrefixOf (c :: rest) = true := by
        intro found
        exact absent (List.isPrefixOf_iff_prefix.mp found).isInfix
      have later : ¬pattern <:+: rest := by
        intro found
        exact absent (List.infix_cons found)
      rw [replaceFrom, if_neg noPrefix, ih later]

theorem replaceFrom_skip (skip : ℕ) (text : List Char) :
    replaceFrom pattern replacement skip text =
      replaceFrom pattern replacement 0 (text.drop skip) := by
  induction text generalizing skip with
  | nil => simp [replaceFrom]
  | cons c rest ih =>
      cases skip with
      | zero => rfl
      | succ skip =>
          rw [replaceFrom, List.drop_succ_cons]
          exact ih skip

theorem replaceFrom_pattern (nonempty : pattern ≠ []) (rest : List Char) :
    replaceFrom pattern replacement 0 (pattern ++ rest) =
      replacement ++ replaceFrom pattern replacement 0 rest := by
  obtain ⟨c, others, rfl⟩ := List.exists_cons_of_ne_nil nonempty
  have found : (c :: others).isPrefixOf (c :: (others ++ rest)) = true :=
    List.isPrefixOf_iff_prefix.mpr ⟨rest, rfl⟩
  rw [List.cons_append, replaceFrom, if_pos found, replaceFrom_skip]
  simp

/-- A match cannot run across a character that the pattern does not have. -/
theorem not_isPrefixOf_across {before rest : List Char} {separator : Char}
    (foreign : separator ∉ pattern) (outside : ¬pattern <+: before) :
    ¬pattern.isPrefixOf (before ++ separator :: rest) = true := by
  intro found
  have whole : pattern <+: before ++ separator :: rest := List.isPrefixOf_iff_prefix.mp found
  have upTo : before ++ [separator] <+: before ++ separator :: rest := ⟨rest, by simp⟩
  rcases List.prefix_or_prefix_of_prefix whole upTo with short | long
  · rcases List.prefix_concat_iff.mp short with equal | inside
    · exact foreign (by simp [equal])
    · exact outside inside
  · exact foreign (long.subset (by simp))

theorem replaceFrom_cons {rest : List Char} {separator : Char} (nonempty : pattern ≠ [])
    (foreign : separator ∉ pattern) :
    replaceFrom pattern replacement 0 (separator :: rest) =
      separator :: replaceFrom pattern replacement 0 rest := by
  have noMatch : ¬pattern.isPrefixOf ([] ++ separator :: rest) = true :=
    not_isPrefixOf_across foreign fun empty => nonempty (List.prefix_nil.mp empty)
  rw [List.nil_append] at noMatch
  rw [replaceFrom, if_neg noMatch]

theorem replaceFrom_append {first rest : List Char} {separator : Char} (nonempty : pattern ≠ [])
    (foreign : separator ∉ pattern) (absent : ¬pattern <:+: first) :
    replaceFrom pattern replacement 0 (first ++ separator :: rest) =
      first ++ separator :: replaceFrom pattern replacement 0 rest := by
  induction first with
  | nil => exact replaceFrom_cons nonempty foreign
  | cons c others ih =>
      have noMatch : ¬pattern.isPrefixOf ((c :: others) ++ separator :: rest) = true :=
        not_isPrefixOf_across foreign fun found => absent found.isInfix
      have later : ¬pattern <:+: others := fun found => absent (List.infix_cons found)
      rw [List.cons_append] at noMatch ⊢
      rw [replaceFrom, if_neg noMatch, ih later, List.cons_append]

theorem toList_substituteSiteId (template siteId : String) :
    (substituteSiteId template siteId).toList =
      replaceFrom placeholder siteId.toList 0 template.toList := by
  unfold substituteSiteId placeholder
  rw [String.toList_ofList]

theorem substituteSiteId_of_free {text : String} (free : PlaceholderFree text) (siteId : String) :
    substituteSiteId text siteId = text := by
  apply String.toList_inj.mp
  rw [toList_substituteSiteId]
  exact replaceFrom_of_absent free

theorem substitute_deviceTopic {deviceId : String} (free : PlaceholderFree deviceId)
    (siteId : String) {tail : String} (plain : PlaceholderFree tail) :
    substituteSiteId ("sites/\x7bsite_id\x7d/devices/" ++ deviceId ++ ("/" ++ tail)) siteId =
      "sites/" ++ siteId ++ "/devices/" ++ deviceId ++ ("/" ++ tail) := by
  have nonempty : placeholder ≠ [] := by decide +kernel
  have foreign : '/' ∉ placeholder := by decide +kernel
  have slash : "/".toList = ['/'] := by decide +kernel
  have sites : "sites/".toList = "sites".toList ++ ['/'] := by decide +kernel
  have devices : "/devices/".toList = [] ++ '/' :: ("devices".toList ++ ['/']) := by decide +kernel
  have front : "sites/\x7bsite_id\x7d/devices/".toList =
      "sites".toList ++ '/' :: (placeholder ++ ([] ++ '/' :: ("devices".toList ++ ['/']))) := by
    decide +kernel
  apply String.toList_inj.mp
  rw [toList_substituteSiteId]
  simp only [String.toList_append, front, slash, sites, devices, List.append_assoc,
    List.cons_append, List.nil_append]
  rw [replaceFrom_append nonempty foreign (by decide +kernel), replaceFrom_pattern nonempty,
    replaceFrom_cons nonempty foreign, replaceFrom_append nonempty foreign (by decide +kernel),
    replaceFrom_append nonempty foreign free, replaceFrom_of_absent plain]

/-! What a spec names -/

def SourceMaps.Distributes (spec : SourceMaps) (deviceId : String) (d : DistributeBinding) : Prop :=
  ∃ source, (deviceId, source) ∈ spec.commands ∧ source.binding = .distribute d

def SourceMaps.Caps (spec : SourceMaps) (p : PowerCapBinding) : Prop :=
  ∃ deviceId source, (deviceId, source) ∈ spec.commands ∧ source.binding = .powerCap p

/-- A topic that some entry of the spec, or the site's own dispatch, has a reading on. -/
inductive Names (spec : SourceMaps) (siteId : String) : String → Prop
  | input {b : SyntheticBinding} {template : String} (listed : .synthetic b ∈ spec.measurements)
      (isInput : template ∈ b.inputs) : Names spec siteId (substituteSiteId template siteId)
  | pair {b : SyntheticBinding} {pair : WeightedPair} (listed : .synthetic b ∈ spec.measurements)
      (isPair : pair ∈ b.pairs) : Names spec siteId (substituteSiteId pair.topic siteId)
  | operatingState {deviceId : String} {d : DistributeBinding} {child : ChildAllocation}
      (distributes : spec.Distributes deviceId d) (isChild : child ∈ d.children) :
      Names spec siteId (substituteSiteId child.operatingStateTopic siteId)
  | stateOfCharge {deviceId : String} {d : DistributeBinding} {child : ChildAllocation}
      (distributes : spec.Distributes deviceId d) (isChild : child ∈ d.children) :
      Names spec siteId (substituteSiteId child.stateOfChargeTopic siteId)
  | limit {deviceId : String} {d : DistributeBinding} {child : ChildAllocation} (charging : Bool)
      (distributes : spec.Distributes deviceId d) (isChild : child ∈ d.children) :
      Names spec siteId (limitTopic siteId child.deviceId charging)
  | reserve {deviceId template : String} {d : DistributeBinding}
      (distributes : spec.Distributes deviceId d)
      (reserve : d.operatorReserveTopic = some template) :
      Names spec siteId (substituteSiteId template siteId)
  | guard {deviceId template : String} {d : DistributeBinding} {guard : EnvelopeGuardConfig}
      (distributes : spec.Distributes deviceId d) (guarded : envelopeGuardConfig d = some guard)
      (isTemplate : template ∈
        EnvelopeGuardConfig.templates guard ++ guard.poiActivePowerTopic.toList) :
      Names spec siteId (substituteSiteId template siteId)
  | cap {template : String} {p : PowerCapBinding} (caps : spec.Caps p)
      (isTemplate : some template ∈
        [p.importLimitTopic, p.exportLimitTopic, p.poiActivePowerTopic]) :
      Names spec siteId (substituteSiteId template siteId)
  | modulePower {deviceId : String} {d : DistributeBinding}
      (distributes : spec.Distributes deviceId d) :
      Names spec siteId (substituteSiteId
        ("sites/\x7bsite_id\x7d/devices/" ++ deviceId ++ "/measurements/active_power/watts") siteId)
  | moduleSoc {deviceId : String} {d : DistributeBinding}
      (distributes : spec.Distributes deviceId d) :
      Names spec siteId (substituteSiteId
        ("sites/\x7bsite_id\x7d/devices/" ++ deviceId ++ "/measurements/state_of_charge/percent")
        siteId)
  | derDispatch {topic : String} (isTopic : topic ∈ [targetActivePowerTopic siteId,
      eventActiveTopic siteId, targetSetpointPresentTopic siteId, energizeEnabledTopic siteId]) :
      Names spec siteId topic

variable {spec : SourceMaps} {siteId topic deviceId : String} {source : CommandSource}
  {d : DistributeBinding}

theorem mem_distributeParentDeviceIds_iff :
    deviceId ∈ distributeParentDeviceIds spec ↔ ∃ d, spec.Distributes deviceId d := by
  unfold distributeParentDeviceIds
  rw [List.mem_map]
  constructor
  · rintro ⟨device, kept, rfl⟩
    obtain ⟨isDevice, distributes⟩ := List.mem_filter.mp kept
    obtain ⟨command, isCommand, bound⟩ := List.any_eq_true.mp distributes
    have listed : (device.1, command.2) ∈ spec.commands :=
      List.mem_flatMap.mpr ⟨device, isDevice, List.mem_map_of_mem isCommand⟩
    cases binding : command.2.binding with
    | distribute d => exact ⟨d, command.2, listed, binding⟩
    | _ => simp [binding, isDistribute] at bound
  · rintro ⟨d, source, listed, bound⟩
    obtain ⟨device, isDevice, command⟩ := List.mem_flatMap.mp listed
    obtain ⟨entry, isEntry, pair⟩ := List.mem_map.mp command
    obtain ⟨rfl, rfl⟩ := Prod.mk.inj pair
    refine ⟨device, List.mem_filter.mpr ⟨isDevice, ?_⟩, rfl⟩
    refine List.any_eq_true.mpr ⟨entry, isEntry, ?_⟩
    rw [bound]
    rfl

theorem named_of_synthetic (collected : topic ∈ collectSyntheticInputTopics spec siteId) :
    Names spec siteId topic := by
  obtain ⟨measurement, listed, found⟩ := List.mem_flatMap.mp collected
  cases measurement with
  | polled => simp at found
  | synthetic b =>
      obtain ⟨template, isTemplate, rfl⟩ := List.mem_map.mp found
      rcases List.mem_append.mp isTemplate with input | pair
      · exact .input listed input
      · obtain ⟨pair, isPair, rfl⟩ := List.mem_map.mp pair
        exact .pair listed isPair

theorem named_of_distribute (distributes : spec.Distributes deviceId d)
    (collected : topic ∈ distributeInputTopics d siteId) : Names spec siteId topic := by
  unfold distributeInputTopics at collected
  rcases List.mem_append.mp collected with own | guarded
  · rcases List.mem_append.mp own with child | reserve
    · obtain ⟨child, isChild, found⟩ := List.mem_flatMap.mp child
      simp only [List.mem_cons, List.not_mem_nil, or_false] at found
      rcases found with rfl | rfl | rfl | rfl
      · exact .operatingState distributes isChild
      · exact .stateOfCharge distributes isChild
      · exact .limit true distributes isChild
      · exact .limit false distributes isChild
    · obtain ⟨template, isTemplate, rfl⟩ := List.mem_map.mp reserve
      exact .reserve distributes (Option.mem_toList.mp isTemplate)
  · split at guarded
    · rename_i guard isGuard
      obtain ⟨template, isTemplate, rfl⟩ := List.mem_map.mp guarded
      exact .guard distributes isGuard isTemplate
    · simp at guarded

theorem named_of_powerCap {p : PowerCapBinding} (caps : spec.Caps p)
    (collected : topic ∈ powerCapInputTopics p siteId) : Names spec siteId topic := by
  obtain ⟨template, isTemplate, rfl⟩ := List.mem_map.mp collected
  exact .cap caps (List.reduceOption_mem_iff.mp isTemplate)

theorem named_of_collectDistribute (collected : topic ∈ collectDistributeInputTopics spec siteId) :
    Names spec siteId topic := by
  obtain ⟨⟨deviceId, source⟩, listed, found⟩ := List.mem_flatMap.mp collected
  dsimp only at found
  split at found
  · rename_i d bound
    exact named_of_distribute ⟨source, listed, bound⟩ found
  · rename_i p bound
    exact named_of_powerCap ⟨deviceId, source, listed, bound⟩ found
  · simp at found

theorem collected_of_distributes (distributes : spec.Distributes deviceId d)
    (found : topic ∈ distributeInputTopics d siteId) :
    topic ∈ collectDistributeInputTopics spec siteId := by
  obtain ⟨source, listed, bound⟩ := distributes
  refine List.mem_flatMap.mpr ⟨(deviceId, source), listed, ?_⟩
  simp only [bound]
  exact found

theorem child_collected {child : ChildAllocation} (isChild : child ∈ d.children)
    (found : topic ∈ [substituteSiteId child.operatingStateTopic siteId,
      substituteSiteId child.stateOfChargeTopic siteId, limitTopic siteId child.deviceId true,
      limitTopic siteId child.deviceId false]) : topic ∈ distributeInputTopics d siteId := by
  refine List.mem_append_left _ (List.mem_append_left _ ?_)
  exact List.mem_flatMap.mpr ⟨child, isChild, found⟩

theorem synthetic_collected {b : SyntheticBinding} {template : String}
    (listed : .synthetic b ∈ spec.measurements)
    (isTemplate : template ∈ b.inputs ++ b.pairs.map WeightedPair.topic) :
    substituteSiteId template siteId ∈ collectSyntheticInputTopics spec siteId :=
  List.mem_flatMap.mpr ⟨.synthetic b, listed, List.mem_map_of_mem isTemplate⟩

theorem collected_of_named (named : Names spec siteId topic) :
    topic ∈ collectSyntheticInputTopics spec siteId ∨
      topic ∈ collectDistributeInputTopics spec siteId ∨
      topic ∈ collectDerDispatchActivePowerTopics spec siteId ∨
      topic ∈ collectDerDispatchStateOfChargeTopics spec siteId ∨
      topic ∈ [targetActivePowerTopic siteId, eventActiveTopic siteId,
        targetSetpointPresentTopic siteId, energizeEnabledTopic siteId] := by
  cases named with
  | input listed isInput =>
      exact .inl (synthetic_collected listed (List.mem_append_left _ isInput))
  | pair listed isPair =>
      refine .inl (synthetic_collected listed (List.mem_append_right _ ?_))
      exact List.mem_map_of_mem isPair
  | operatingState distributes isChild =>
      refine .inr (.inl (collected_of_distributes distributes (child_collected isChild ?_)))
      simp
  | stateOfCharge distributes isChild =>
      refine .inr (.inl (collected_of_distributes distributes (child_collected isChild ?_)))
      simp
  | limit charging distributes isChild =>
      refine .inr (.inl (collected_of_distributes distributes (child_collected isChild ?_)))
      cases charging <;> simp
  | reserve distributes reserve =>
      refine .inr (.inl (collected_of_distributes distributes ?_))
      refine List.mem_append_left _ (List.mem_append_right _ (List.mem_map_of_mem ?_))
      exact Option.mem_toList.mpr reserve
  | guard distributes guarded isTemplate =>
      refine .inr (.inl (collected_of_distributes distributes (List.mem_append_right _ ?_)))
      rw [guarded]
      exact List.mem_map_of_mem isTemplate
  | cap caps isTemplate =>
      obtain ⟨deviceId, source, listed, bound⟩ := caps
      refine .inr (.inl (List.mem_flatMap.mpr ⟨(deviceId, source), listed, ?_⟩))
      simp only [bound]
      exact List.mem_map_of_mem (List.reduceOption_mem_iff.mpr isTemplate)
  | modulePower distributes =>
      refine .inr (.inr (.inl (List.mem_map.mpr ⟨_, ?_, rfl⟩)))
      exact mem_distributeParentDeviceIds_iff.mpr ⟨_, distributes⟩
  | moduleSoc distributes =>
      refine .inr (.inr (.inr (.inl (List.mem_map.mpr ⟨_, ?_, rfl⟩))))
      exact mem_distributeParentDeviceIds_iff.mpr ⟨_, distributes⟩
  | derDispatch isTopic => exact .inr (.inr (.inr (.inr isTopic)))

/-- What `input_topics` collects is what the spec names. -/
theorem mem_inputTopics_iff : topic ∈ inputTopics spec siteId ↔ Names spec siteId topic := by
  unfold inputTopics
  rw [List.mem_append, List.mem_append, List.mem_append, List.mem_append]
  constructor
  · rintro ((((synthetic | distribute) | power) | soc) | fixed)
    · exact named_of_synthetic synthetic
    · exact named_of_collectDistribute distribute
    · obtain ⟨deviceId, parent, rfl⟩ := List.mem_map.mp power
      obtain ⟨d, distributes⟩ := mem_distributeParentDeviceIds_iff.mp parent
      exact .modulePower distributes
    · obtain ⟨deviceId, parent, rfl⟩ := List.mem_map.mp soc
      obtain ⟨d, distributes⟩ := mem_distributeParentDeviceIds_iff.mp parent
      exact .moduleSoc distributes
    · exact .derDispatch fixed
  · intro named
    rcases collected_of_named named with synthetic | distribute | power | soc | fixed
    · exact .inl (.inl (.inl (.inl synthetic)))
    · exact .inl (.inl (.inl (.inr distribute)))
    · exact .inl (.inl (.inr power))
    · exact .inl (.inr soc)
    · exact .inr fixed

/-! What the tasks look up -/

theorem sharesReads_named (distributes : spec.Distributes deviceId d)
    (read : topic ∈ sharesReads d siteId) : Names spec siteId topic := by
  unfold sharesReads limitReads at read
  simp only [List.mem_append, List.mem_flatMap, List.mem_cons, List.not_mem_nil, or_false] at read
  rcases read with (⟨child, isChild, rfl | rfl⟩ | ⟨child, isChild, rfl | rfl⟩) | reserve
  · exact .operatingState distributes isChild
  · exact .stateOfCharge distributes isChild
  · exact .limit true distributes isChild
  · exact .limit false distributes isChild
  · obtain ⟨template, isTemplate, rfl⟩ := List.mem_map.mp reserve
    exact .reserve distributes (Option.mem_toList.mp isTemplate)

theorem bindingReads_named (listed : (deviceId, source) ∈ spec.commands)
    (read : topic ∈ bindingReads source.binding siteId) : Names spec siteId topic := by
  unfold bindingReads at read
  split at read
  · rename_i d bound
    exact sharesReads_named ⟨source, listed, bound⟩ read
  · simp at read

def PlainIds (spec : SourceMaps) : Prop := ∀ device ∈ spec.commandSource, PlaceholderFree device.1

instance (spec : SourceMaps) : Decidable (PlainIds spec) :=
  inferInstanceAs (Decidable (∀ device ∈ spec.commandSource, PlaceholderFree device.1))

theorem moduleSocTopic_eq (siteId deviceId : String) : moduleSocTopic siteId deviceId =
    "sites/" ++ siteId ++ "/devices/" ++ deviceId ++ "/measurements/state_of_charge/percent" := rfl

/-- What is formatted with a plain id is what the collector substitutes. -/
theorem moduleSocTopic_named (plainIds : PlainIds spec)
    (distributes : spec.Distributes deviceId d) :
    Names spec siteId (moduleSocTopic siteId deviceId) := by
  have tail : "/measurements/state_of_charge/percent" =
      "/" ++ "measurements/state_of_charge/percent" := by decide +kernel
  have plain : PlaceholderFree deviceId := by
    obtain ⟨source, listed, _⟩ := distributes
    obtain ⟨device, isDevice, command⟩ := List.mem_flatMap.mp listed
    obtain ⟨entry, _, pair⟩ := List.mem_map.mp command
    rw [← (Prod.mk.inj pair).1]
    exact plainIds device isDevice
  have named : Names spec siteId (substituteSiteId ("sites/\x7bsite_id\x7d/devices/" ++ deviceId ++
      "/measurements/state_of_charge/percent") siteId) := .moduleSoc distributes
  rw [tail, substitute_deviceTopic plain siteId (by decide +kernel)] at named
  rw [moduleSocTopic_eq, tail]
  exact named

theorem commands_of_channel {key : String} {binding : ProtocolBinding}
    (resolved : channelOf spec.channels deviceId key = some binding) :
    ∃ source, (deviceId, source) ∈ spec.commands ∧ source.binding = binding := by
  obtain ⟨bindings, device, found⟩ := Option.bind_eq_some_iff.mp resolved
  obtain ⟨source, ⟨commands, looked, isListed⟩, _, bound⟩ := deviceChannels_lists device found
  obtain ⟨entry, isEntry, rfl⟩ := List.mem_map.mp isListed
  obtain ⟨before, after, split, _⟩ := List.lookup_eq_some_iff.mp looked
  have isDevice : (deviceId, commands) ∈ spec.commandSource := by simp [split]
  refine ⟨entry.2, List.mem_flatMap.mpr ⟨(deviceId, commands), isDevice, ?_⟩, bound⟩
  exact List.mem_map_of_mem isEntry

theorem boundsReads_named (plainIds : PlainIds spec)
    (read : topic ∈ boundsReads spec.channels siteId deviceId) : Names spec siteId topic := by
  unfold boundsReads at read
  split at read
  · rename_i d resolved
    have distributes : spec.Distributes deviceId d := commands_of_channel resolved
    rcases List.mem_cons.mp read with rfl | limit
    · exact moduleSocTopic_named plainIds distributes
    · refine sharesReads_named distributes ?_
      exact List.mem_append_left _ (List.mem_append_right _ limit)
  · simp at read

theorem syntheticReads_named {task : Task} (spawned : task ∈ syntheticTasks spec siteId)
    (read : topic ∈ task.reads siteId) : Names spec siteId topic := by
  obtain ⟨measurement, listed, made⟩ := List.mem_filterMap.mp spawned
  cases measurement with
  | polled => simp at made
  | synthetic b =>
      obtain ⟨computation, isComputation, rfl⟩ := Option.map_eq_some_iff.mp made
      unfold spawnSynthetic at isComputation
      split at isComputation
      · rw [Option.some.injEq] at isComputation
        subst isComputation
        simp only [Task.reads, Computation.topics, List.map_map, List.mem_map,
          Function.comp_apply] at read
        obtain ⟨pair, isPair, rfl⟩ := read
        exact .pair listed isPair
      · split at isComputation
        · rw [Option.some.injEq] at isComputation
          subst isComputation
          obtain ⟨template, isInput, rfl⟩ := List.mem_map.mp read
          exact .input listed isInput
        · simp at isComputation

theorem mergeInto_forall {property : ShedTaskConfig → Prop}
    (merges : ∀ g c, property g → property c →
      property { g with modules := g.modules ++ c.modules })
    {c : ShedTaskConfig} {groups : List ShedTaskConfig} (own : property c)
    (each : ∀ g ∈ groups, property g) : ∀ g ∈ ShedTaskConfig.mergeInto c groups, property g := by
  induction groups with
  | nil =>
      intro g merged
      rw [ShedTaskConfig.mergeInto, List.mem_singleton] at merged
      exact merged ▸ own
  | cons first rest ih =>
      have later := ih fun g isRest => each g (List.mem_cons_of_mem first isRest)
      intro g merged
      rw [ShedTaskConfig.mergeInto] at merged
      split at merged
      · rcases List.mem_cons.mp merged with rfl | isRest
        · exact merges first c (each first (List.mem_cons_self ..)) own
        · exact each g (List.mem_cons_of_mem first isRest)
      · rcases List.mem_cons.mp merged with rfl | isMerged
        · exact each g (List.mem_cons_self ..)
        · exact later g isMerged

/-- What holds of every config and of two that are merged holds of every group. -/
theorem perPoi_forall {property : ShedTaskConfig → Prop}
    (merges : ∀ g c, property g → property c →
      property { g with modules := g.modules ++ c.modules })
    {configs : List ShedTaskConfig} (each : ∀ c ∈ configs, property c) :
    ∀ g ∈ ShedTaskConfig.perPoi configs, property g := by
  -- over the configs still to come, with the groups made so far
  have general : ∀ groups : List ShedTaskConfig, (∀ g ∈ groups, property g) →
      ∀ g ∈ configs.foldl (fun groups c => ShedTaskConfig.mergeInto c groups) groups,
        property g := by
    induction configs with
    | nil => exact fun groups made => made
    | cons c rest ih =>
        intro groups made
        have own : property c := each c (List.mem_cons_self ..)
        exact ih (fun later isRest => each later (List.mem_cons_of_mem c isRest)) _
          (mergeInto_forall merges own made)
  exact general [] (by simp)

/-- A group is its first config with more modules. -/
theorem perPoi_member (configs : List ShedTaskConfig) :
    ∀ g ∈ ShedTaskConfig.perPoi configs, ∃ c ∈ configs, g = { c with modules := g.modules } := by
  refine perPoi_forall ?_ ?_
  · rintro first c ⟨original, isConfig, same⟩ _
    exact ⟨original, isConfig, by rw [same]⟩
  · exact fun c isConfig => ⟨c, isConfig, rfl⟩

structure FromBinding (deviceId channelKey : String) (p : PowerCapBinding) (siteId : String)
    (c : ShedTaskConfig) : Prop where
  modules : c.modules = [⟨deviceId, channelKey, p⟩]
  site : c.siteId = siteId
  topics : ∀ topic ∈ [c.poiTopic, c.importLimitTopic, c.exportLimitTopic],
    topic ∈ powerCapInputTopics p siteId

theorem fromBinding_made {channelKey : String} {p : PowerCapBinding} {c : ShedTaskConfig}
    (made : ShedTaskConfig.fromBinding deviceId channelKey p siteId = some c) :
    FromBinding deviceId channelKey p siteId c := by
  unfold ShedTaskConfig.fromBinding at made
  simp only [Option.bind_eq_bind, Option.bind_eq_some_iff, Option.pure_def,
    Option.some.injEq] at made
  obtain ⟨_, _, _, _, _, _, poi, hasPoi, imports, hasImport, exports, hasExport, rfl⟩ := made
  refine ⟨rfl, rfl, ?_⟩
  unfold powerCapInputTopics
  rw [hasPoi, hasImport, hasExport]
  simp [List.reduceOption, substituteAll]

theorem mem_shedConfigs {c : ShedTaskConfig} (isConfig : c ∈ shedConfigs spec siteId) :
    ∃ deviceId source p, (deviceId, source) ∈ spec.commands ∧ source.binding = .powerCap p ∧
      ShedTaskConfig.fromBinding deviceId source.key p siteId = some c := by
  obtain ⟨⟨deviceId, source⟩, listed, made⟩ := List.mem_filterMap.mp isConfig
  dsimp only at made
  split at made
  · rename_i p bound
    exact ⟨deviceId, source, p, listed, bound, made⟩
  · simp at made

theorem envelopeGuardConfig_active {guard : EnvelopeGuardConfig}
    (guarded : envelopeGuardConfig d = some guard) :
    d.activePowerTopic = some guard.activePowerTopic := by
  unfold envelopeGuardConfig at guarded
  simp only [Option.bind_eq_bind, Option.bind_eq_some_iff, Option.pure_def,
    Option.some.injEq] at guarded
  obtain ⟨_, _, _, _, _, _, _, _, _, _, _, _, _, _, active, hasActive, rfl⟩ := guarded
  exact hasActive

theorem spareReads_named (read : topic ∈ spareReads (storage spec) siteId) :
    Names spec siteId topic := by
  obtain ⟨m, isStorage, found⟩ := List.mem_flatMap.mp read
  obtain ⟨⟨deviceId, source⟩, listed, made⟩ := List.mem_filterMap.mp isStorage
  dsimp only at made
  split at made
  · rename_i d bound
    split at made
    · rename_i guarded
      rw [Option.some.injEq] at made
      subst made
      rcases List.mem_append.mp found with active | shares
      · obtain ⟨template, isTemplate, rfl⟩ := List.mem_map.mp active
        obtain ⟨guard, isGuard⟩ := Option.isSome_iff_exists.mp guarded
        refine .guard ⟨source, listed, bound⟩ isGuard ?_
        rw [envelopeGuardConfig_active isGuard, Option.toList_some,
          List.mem_singleton] at isTemplate
        simp [isTemplate, EnvelopeGuardConfig.templates]
      · exact sharesReads_named ⟨source, listed, bound⟩ shares
    · simp at made
  · simp at made

theorem shedReads_named {task : Task} (spawned : task ∈ shedTasks spec siteId)
    (read : topic ∈ task.reads siteId) : Names spec siteId topic := by
  obtain ⟨group, grouped, rfl⟩ := List.mem_map.mp spawned
  obtain ⟨c, isConfig, same⟩ := perPoi_member _ group grouped
  obtain ⟨deviceId, source, p, listed, bound, made⟩ := mem_shedConfigs isConfig
  have config := fromBinding_made made
  rw [same] at read
  rcases List.mem_append.mp read with own | spare
  · exact named_of_powerCap ⟨deviceId, source, listed, bound⟩ (config.topics topic own)
  · rw [config.site] at spare
    exact spareReads_named spare

/-- Where a guard's template still holds the placeholder once the site id is in, the task's second
substitution leads to a topic that something else of the spec is read from. -/
def SubstitutesOnce (spec : SourceMaps) (siteId : String) : Prop :=
  ∀ deviceId d guard, spec.Distributes deviceId d → envelopeGuardConfig d = some guard →
    ∀ template ∈ EnvelopeGuardConfig.templates guard,
      PlaceholderFree (substituteSiteId template siteId) ∨
        Names spec siteId (substituteSiteId (substituteSiteId template siteId) siteId)

theorem templates_substituteGuard (guard : EnvelopeGuardConfig) (siteId : String) :
    EnvelopeGuardConfig.templates (substituteGuard guard siteId) =
      substituteAll (EnvelopeGuardConfig.templates guard) siteId := rfl

theorem rechargeReads_named (plainIds : PlainIds spec)
    (distributes : spec.Distributes deviceId d)
    (read : topic ∈ rechargeReads (.distribute d) deviceId siteId) : Names spec siteId topic := by
  unfold rechargeReads at read
  dsimp only at read
  split at read
  · simp only [List.mem_cons, List.not_mem_nil, or_false] at read
    rcases read with rfl | rfl
    · exact .derDispatch (by simp)
    · exact moduleSocTopic_named plainIds distributes
  · simp at read

theorem guardReads_named {guard : EnvelopeGuardConfig} (once : SubstitutesOnce spec siteId)
    (distributes : spec.Distributes deviceId d) (guarded : envelopeGuardConfig d = some guard)
    (read : topic ∈ guardReads (substituteGuard guard siteId) siteId) :
    Names spec siteId topic := by
  obtain ⟨template, isTemplate, rfl⟩ := List.mem_map.mp read
  rw [templates_substituteGuard] at isTemplate
  rcases List.mem_append.mp isTemplate with substituted | poi
  · obtain ⟨raw, isRaw, rfl⟩ := List.mem_map.mp substituted
    rcases once deviceId d guard distributes guarded raw isRaw with free | named
    · rw [substituteSiteId_of_free free]
      exact .guard distributes guarded (List.mem_append_left _ isRaw)
    · exact named
  · exact .guard distributes guarded (List.mem_append_right _ poi)

theorem envelopeReads_named {task : Task} (plainIds : PlainIds spec)
    (once : SubstitutesOnce spec siteId) (spawned : task ∈ envelopeTasks spec siteId)
    (read : topic ∈ task.reads siteId) : Names spec siteId topic := by
  obtain ⟨⟨deviceId, source⟩, listed, made⟩ := List.mem_filterMap.mp spawned
  dsimp only at made
  split at made
  · rename_i d bound
    rw [Option.some.injEq] at made
    subst made
    simp only [Task.reads, envelopeReads, envelopeTask, List.mem_append, List.mem_cons] at read
    rcases read with guardRead | rfl | shares
    · cases guarded : envelopeGuardConfig d with
      | none => simp [guarded] at guardRead
      | some guard =>
          simp only [guarded, Option.map_some, List.mem_append] at guardRead
          rcases guardRead with recharge | own
          · rw [bound] at recharge
            exact rechargeReads_named plainIds ⟨source, listed, bound⟩ recharge
          · exact guardReads_named once ⟨source, listed, bound⟩ guarded own
    · exact .derDispatch (by simp)
    · exact bindingReads_named listed shares
  · simp at made

theorem siteReads_named (plainIds : PlainIds spec)
    (read : topic ∈ (Task.siteDistribution (postureTopics siteId) spec).reads siteId) :
    Names spec siteId topic := by
  rcases List.mem_append.mp read with own | commanded
  · rcases List.mem_append.mp own with posture | bounds
    · simp only [postureTopics, List.mem_cons, List.not_mem_nil, or_false] at posture
      rcases posture with rfl | rfl | rfl
      · exact .derDispatch (by simp)
      · exact .derDispatch (by simp)
      · exact .derDispatch (by simp)
    · obtain ⟨device, _, found⟩ := List.mem_flatMap.mp bounds
      exact boundsReads_named plainIds found
  · obtain ⟨⟨deviceId, source⟩, listed, found⟩ := List.mem_flatMap.mp commanded
    exact bindingReads_named listed found

theorem taskReads_named {task : Task} (plainIds : PlainIds spec)
    (once : SubstitutesOnce spec siteId) (spawned : task ∈ spawnTaskSet spec siteId)
    (read : topic ∈ task.reads siteId) : Names spec siteId topic := by
  unfold spawnTaskSet at spawned
  simp only [List.mem_append, List.mem_cons, List.not_mem_nil, or_false] at spawned
  rcases spawned with ((synthetic | envelope) | shed) | rfl | rfl
  · exact syntheticReads_named synthetic read
  · exact envelopeReads_named plainIds once envelope read
  · exact shedReads_named shed read
  · exact mem_inputTopics_iff.mp (by simp [inputTopics, show topic ∈
      collectDerDispatchActivePowerTopics spec siteId from read])
  · exact siteReads_named plainIds read

theorem guardTemplate_read {guard : EnvelopeGuardConfig} {template : String}
    (distributes : spec.Distributes deviceId d) (guarded : envelopeGuardConfig d = some guard)
    (isTemplate : template ∈ EnvelopeGuardConfig.templates guard) :
    ∃ task ∈ spawnTaskSet spec siteId,
      substituteSiteId (substituteSiteId template siteId) siteId ∈ task.reads siteId := by
  obtain ⟨source, listed, bound⟩ := distributes
  refine ⟨.envelope (envelopeTask deviceId source d siteId), ?_, ?_⟩
  · have spawned : .envelope (envelopeTask deviceId source d siteId) ∈ envelopeTasks spec siteId :=
      List.mem_filterMap.mpr ⟨(deviceId, source), listed, by simp only [bound]⟩
    unfold spawnTaskSet
    simp [spawned]
  · have own : substituteSiteId (substituteSiteId template siteId) siteId ∈
        guardReads (substituteGuard guard siteId) siteId := by
      refine List.mem_map_of_mem (List.mem_append_left _ ?_)
      rw [templates_substituteGuard]
      exact List.mem_map_of_mem isTemplate
    simp [Task.reads, envelopeReads, envelopeTask, guarded, own]

/-- What a task looks up is subscribed exactly where the site id goes into a guard once. -/
theorem reads_subscribed_iff (spec : SourceMaps) (siteId : String) (plainIds : PlainIds spec) :
    (∀ task ∈ spawnTaskSet spec siteId, ∀ topic ∈ task.reads siteId,
        topic ∈ inputTopics spec siteId) ↔
      SubstitutesOnce spec siteId := by
  constructor
  · intro subscribed deviceId d guard distributes guarded template isTemplate
    obtain ⟨task, spawned, read⟩ := guardTemplate_read distributes guarded isTemplate
    exact .inr (mem_inputTopics_iff.mp (subscribed task spawned _ read))
  · intro once task spawned topic read
    exact mem_inputTopics_iff.mpr (taskReads_named plainIds once spawned read)

def guardedModule (importLimitTopic : String) : DistributeBinding where
  allocationPolicy := "equal_split"
  children := [⟨"rack-1", "sites/\x7bsite_id\x7d/devices/rack-1/measurements/operating_state/none",
    "sites/\x7bsite_id\x7d/devices/rack-1/measurements/state_of_charge/percent", -1000, 1000⟩]
  rampRatePerSec := some 1
  hysteresisMargin := some (1 / 10)
  hysteresisDwellSecs := some 30
  powerMin := some (-1000)
  powerMax := some 1000
  importLimitTopic := some importLimitTopic
  exportLimitTopic :=
    some "sites/\x7bsite_id\x7d/devices/operating_envelope/measurements/export_limit/watts"
  activePowerTopic := some "sites/\x7bsite_id\x7d/devices/module-1/measurements/active_power/watts"

def oneModule (importLimitTopic : String) : SourceMaps where
  protocolSource := []
  commandSource := [("module-1", [("active_power",
    ⟨"set", "active_power", "watts", .distribute (guardedModule importLimitTopic)⟩)])]

theorem oneModule_distributes {importLimitTopic deviceId : String} {d : DistributeBinding} :
    (oneModule importLimitTopic).Distributes deviceId d ↔
      deviceId = "module-1" ∧ d = guardedModule importLimitTopic := by
  unfold SourceMaps.Distributes
  constructor
  · rintro ⟨source, listed, bound⟩
    simp only [SourceMaps.commands, oneModule, List.flatMap_cons, List.flatMap_nil, List.map_cons,
      List.map_nil, List.append_nil, List.mem_singleton, Prod.mk.injEq] at listed
    obtain ⟨rfl, rfl⟩ := listed
    exact ⟨rfl, (ProtocolBinding.distribute.inj bound).symm⟩
  · rintro ⟨rfl, rfl⟩
    exact ⟨_, List.mem_singleton.mpr rfl, rfl⟩

def importLimitTemplate : String :=
  "sites/\x7bsite_id\x7d/devices/operating_envelope/measurements/import_limit/watts"

theorem reads_subscribed_oneModule :
    PlainIds (oneModule importLimitTemplate) ∧
    ∀ task ∈ spawnTaskSet (oneModule importLimitTemplate) "acme", ∀ topic ∈ task.reads "acme",
      topic ∈ inputTopics (oneModule importLimitTemplate) "acme" := by
  have plainIds : PlainIds (oneModule importLimitTemplate) := by decide +kernel
  refine ⟨plainIds, (reads_subscribed_iff _ _ plainIds).mpr ?_⟩
  intro deviceId d guard distributes guarded template isTemplate
  obtain ⟨rfl, rfl⟩ := oneModule_distributes.mp distributes
  rw [← Option.some.inj guarded] at isTemplate
  simp only [EnvelopeGuardConfig.templates, List.mem_cons, List.not_mem_nil, or_false] at isTemplate
  rcases isTemplate with rfl | rfl | rfl
  · exact .inl (by decide +kernel)
  · exact .inl (by decide +kernel)
  · exact .inl (by decide +kernel)

/-- At the site `d` the first substitution makes a placeholder. -/
def nestedTemplate : String := "\x7bsite_i\x7bsite_id\x7d\x7d"

theorem nested_template_unsubscribed :
    PlaceholderFree "d" ∧ PlainIds (oneModule nestedTemplate) ∧
    ¬∀ task ∈ spawnTaskSet (oneModule nestedTemplate) "d", ∀ topic ∈ task.reads "d",
      topic ∈ inputTopics (oneModule nestedTemplate) "d" := by
  refine ⟨by decide +kernel, by decide +kernel, fun subscribed => ?_⟩
  have distributes : (oneModule nestedTemplate).Distributes "module-1"
      (guardedModule nestedTemplate) := oneModule_distributes.mpr ⟨rfl, rfl⟩
  obtain ⟨task, spawned, read⟩ : ∃ task ∈ spawnTaskSet (oneModule nestedTemplate) "d",
      substituteSiteId (substituteSiteId nestedTemplate "d") "d" ∈ task.reads "d" :=
    guardTemplate_read distributes rfl (List.mem_cons_self ..)
  exact absurd (subscribed task spawned _ read) (by decide +kernel)

end EmsGateway.App
