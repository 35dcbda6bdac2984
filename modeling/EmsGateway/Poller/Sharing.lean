import EmsGateway.Library.Delimited
import EmsGateway.Poller.Schedule

/-!
What a device's readings share. A Modbus or SunSpec reading goes over the one session that was ever
opened to its host and port, dialled as the device's trust asks. Redfish readings of one tick that
name the same resource rest on one fetch of it, as long as every `uri` starts with a slash: the key
they share it under leaves out what the URL has between port and `uri`.
-/

namespace EmsGateway.Poller

open EmsGateway.App EmsGateway.Library EmsGateway.Redfish

/-! Keys -/

theorem toList_sessionKey (host : String) (port : BitVec 16) :
    (sessionKey host port).toList = host.toList ++ ':' :: (toString port.toNat).toList := by
  simp only [sessionKey, String.toList_append, toString, List.append_assoc]
  rfl

/-- The last colon of a key ends the host, whatever the host holds. -/
theorem sessionKey_inj {host other : String} {port otherPort : BitVec 16}
    (same : sessionKey host port = sessionKey other otherPort) :
    host = other ∧ port = otherPort := by
  have lists := congrArg String.toList same
  rw [toList_sessionKey, toList_sessionKey] at lists
  obtain ⟨hosts, ports⟩ := delimited_inj_last (notMem_toString rfl _) (notMem_toString rfl _) lists
  exact ⟨String.toList_injective hosts, BitVec.eq_of_toNat_eq (toList_toString_inj ports)⟩

/-- The `uri` starts with a slash, and no slash is in the host. -/
def PlainUri (b : RedfishBinding) : Prop :=
  '/' ∉ b.host.toList ∧ ∃ rest, b.uri.toList = '/' :: rest

theorem slash_notMem_sessionKey {b : RedfishBinding} (plain : PlainUri b) :
    '/' ∉ (sessionKey b.host b.port).toList := by
  rw [toList_sessionKey, List.mem_append, List.mem_cons, not_or, not_or]
  exact ⟨plain.1, by decide, notMem_toString rfl _⟩

theorem toList_resourceKey (b : RedfishBinding) :
    (resourceKey b).toList = (sessionKey b.host b.port).toList ++ b.uri.toList := by
  simp only [resourceKey, sessionKey, String.toList_append, toString, List.append_assoc]

theorem toList_resourceUrl (trust : Option DeviceTrust) (creds : Option GatewayCredentials) :
    ∃ start : List Char, ∀ b : RedfishBinding, (resourceUrl trust creds b).toList = start ++
      ((sessionKey b.host b.port).toList ++ '/' :: ("redfish/v1".toList ++ b.uri.toList)) := by
  refine ⟨(scheme trust creds).toList ++ "://".toList, fun b => ?_⟩
  simp only [resourceUrl, sessionKey, String.toList_append, toString, List.append_assoc]
  rfl

/-- Two readings share a key exactly when they name one URL. -/
theorem resourceKey_eq_iff (trust : Option DeviceTrust) (creds : Option GatewayCredentials)
    {b other : RedfishBinding} (plain : PlainUri b) (otherPlain : PlainUri other) :
    resourceKey b = resourceKey other ↔
      resourceUrl trust creds b = resourceUrl trust creds other := by
  obtain ⟨start, url⟩ := toList_resourceUrl trust creds
  obtain ⟨rest, uri⟩ := plain.2
  obtain ⟨otherRest, otherUri⟩ := otherPlain.2
  rw [← String.toList_inj, ← String.toList_inj, url, url, toList_resourceKey, toList_resourceKey]
  constructor
  · intro same
    rw [uri, otherUri] at same
    obtain ⟨endpoints, rests⟩ := delimited_inj (slash_notMem_sessionKey plain)
      (slash_notMem_sessionKey otherPlain) same
    rw [endpoints, uri, otherUri, rests]
  · intro same
    obtain ⟨endpoints, rests⟩ := delimited_inj (slash_notMem_sessionKey plain)
      (slash_notMem_sessionKey otherPlain) (List.append_cancel_left same)
    rw [endpoints, List.append_cancel_left rests]

/-! What a reading has to do with its endpoint -/

def PointBinding.endpoint (binding : PointBinding) : Option (String × BitVec 16) :=
  match binding with
  | .modbusTcp host port _ => some (host, port)
  | .sunspec host port _ => some (host, port)
  | _ => none

def Turn.opens (turn : Turn) : List Modbus.Channel :=
  turn.calls.filterMap fun call =>
    match call with
    | .openChannel channel => some channel
    | _ => none

def Turn.fetches (turn : Turn) : List (ℕ × String) :=
  turn.calls.filterMap fun call =>
    match call with
    | .fetchResource url _ => some (turn.tick, url)
    | _ => none

namespace PollLoop

/-! Sessions -/

def opened (s : PollLoop) : List Modbus.Channel := s.log.flatMap Turn.opens

/-- A reading goes over the session kept for its endpoint, or over none. -/
structure KeepsSessions (s : PollLoop) (binding : PointBinding) (reading : Reading) : Prop where
  same : reading.sessions = s.sessions
  opensNone : ∀ ch, Call.openChannel ch ∉ reading.calls
  usesKept : ∀ ch, Call.readOn ch ∈ reading.calls → ∃ host port,
    binding.endpoint = some (host, port) ∧
      s.sessions (sessionKey host port) = some ch

/-- The first reading of its endpoint opens the session and is read over it. -/
structure OpensSession (s : PollLoop) (binding : PointBinding) (reading : Reading)
    (session : Modbus.Channel) : Prop where
  endpoint : binding.endpoint = some (session.host, session.port)
  fresh : s.sessions (sessionKey session.host session.port) = none
  kept : reading.sessions =
    Function.update s.sessions (sessionKey session.host session.port) (some session)
  calls : reading.calls = [.openChannel session, .readOn session]

theorem readSession_cases (device : DevicePoller) (s : PollLoop) {binding : PointBinding}
    {host : String} {port : BitVec 16}
    (endpoint : binding.endpoint = some (host, port)) (answers : Answers) :
    KeepsSessions s binding (readSession device s host port answers) ∨
      OpensSession s binding (readSession device s host port answers)
        ⟨host, port, channel device.trust device.creds⟩ := by
  unfold readSession
  dsimp only
  cases kept : s.sessions (sessionKey host port) with
  | some session =>
      refine .inl ⟨rfl, ?_, ?_⟩
      · intro ch member
        simp at member
      · intro ch member
        obtain rfl := Call.readOn.inj (List.mem_singleton.mp member)
        exact ⟨host, port, endpoint, kept⟩
  | none =>
      cases opens : Modbus.openChannel host port device.trust device.creds answers.tlsConfig with
      | error message =>
          exact .inl ⟨rfl, fun ch member => absurd member List.not_mem_nil,
            fun ch member => absurd member List.not_mem_nil⟩
      | ok session =>
          obtain rfl := Modbus.openChannel_ok opens
          exact .inr ⟨endpoint, kept, rfl, rfl⟩

theorem readPoint_cases (device : DevicePoller) (s : PollLoop) (binding : PointBinding)
    (answers : Answers) :
    KeepsSessions s binding (readPoint device s binding answers) ∨
      ∃ host port, OpensSession s binding (readPoint device s binding answers)
        ⟨host, port, channel device.trust device.creds⟩ := by
  cases binding with
  | redfish b =>
      left
      simp only [readPoint, readResource]
      split
      · exact ⟨rfl, fun ch member => absurd member List.not_mem_nil,
          fun ch member => absurd member List.not_mem_nil⟩
      · exact ⟨rfl, fun ch member => by simp at member, fun ch member => by simp at member⟩
  | modbusTcp host port b =>
      exact (readSession_cases device s rfl answers).imp_right fun opens => ⟨host, port, opens⟩
  | sunspec host port b =>
      exact (readSession_cases device s rfl answers).imp_right fun opens => ⟨host, port, opens⟩
  | other protocol =>
      exact .inl ⟨rfl, fun ch member => by simp [readPoint] at member,
        fun ch member => by simp [readPoint] at member⟩

structure Sessions (device : DevicePoller) (s : PollLoop) : Prop where
  kept : ∀ key ch, s.sessions key = some ch → ch ∈ s.opened ∧ key = sessionKey ch.host ch.port ∧
    ch.dial = channel device.trust device.creds
  covered : ∀ ch ∈ s.opened, s.sessions (sessionKey ch.host ch.port) ≠ none
  once : (s.opened.map fun ch => (ch.host, ch.port)).Nodup
  used : ∀ turn ∈ s.log, ∀ ch, Call.readOn ch ∈ turn.calls → ch ∈ s.opened ∧
    ∃ point host port, device.points[turn.point]? = some point ∧
      point.binding.endpoint = some (host, port) ∧
        ch = ⟨host, port, channel device.trust device.creds⟩

theorem mem_opens {turn : Turn} {ch : Modbus.Channel} :
    ch ∈ turn.opens ↔ Call.openChannel ch ∈ turn.calls := by
  unfold Turn.opens
  rw [List.mem_filterMap]
  constructor
  · rintro ⟨call, member, opens⟩
    cases call with
    | openChannel other => rwa [← Option.some.inj opens]
    | fetchResource url answer => simp at opens
    | readOn other => simp at opens
    | readValue => simp at opens
  · intro member
    exact ⟨_, member, rfl⟩

section Sessions

variable {device : DevicePoller} {s : PollLoop}

theorem Sessions.start (device : DevicePoller) (now : Instant) :
    Sessions device (start device now) := by
  refine ⟨?_, ?_, List.nodup_nil, ?_⟩
  · rintro key ch ⟨⟩
  · intro ch member
    exact absurd member List.not_mem_nil
  · intro turn member
    exact absurd member List.not_mem_nil

theorem opened_read (i : ℕ) (rest : List ℕ) (point : Point) (answers : Answers) (now : Instant) :
    (s.read device i rest point answers now).opened =
      (s.turn device i point answers now).opens ++ s.opened :=
  List.flatMap_cons

theorem Sessions.keep (sessions : Sessions device s) {i : ℕ} (rest : List ℕ) {point : Point}
    (found : device.points[i]? = some point) {answers : Answers} (now : Instant)
    (keeps : KeepsSessions s point.binding (readPoint device s point.binding answers)) :
    Sessions device (s.read device i rest point answers now) := by
  have none : (s.turn device i point answers now).opens = [] := by
    rw [List.eq_nil_iff_forall_not_mem]
    intro ch member
    exact keeps.opensNone ch (mem_opens.mp member)
  have same : (s.read device i rest point answers now).opened = s.opened := by
    rw [opened_read, none, List.nil_append]
  have sameSessions : (s.read device i rest point answers now).sessions = s.sessions := keeps.same
  refine ⟨?_, ?_, ?_, ?_⟩
  · rw [same, sameSessions]
    exact sessions.kept
  · rw [same, sameSessions]
    exact sessions.covered
  · rw [same]
    exact sessions.once
  · rw [same]
    intro turn member ch reads
    rcases List.mem_cons.mp member with rfl | earlier
    · obtain ⟨host, port, endpoint, kept⟩ := keeps.usesKept ch reads
      obtain ⟨opened, key, dial⟩ := sessions.kept _ ch kept
      obtain ⟨hosts, ports⟩ := sessionKey_inj key
      refine ⟨opened, point, host, port, found, endpoint, ?_⟩
      rw [hosts, ports, ← dial]
    · exact sessions.used turn earlier ch reads

theorem Sessions.dial (sessions : Sessions device s) {i : ℕ} (rest : List ℕ) {point : Point}
    (found : device.points[i]? = some point) {answers : Answers} (now : Instant)
    {host : String} {port : BitVec 16}
    (opens : OpensSession s point.binding (readPoint device s point.binding answers)
      ⟨host, port, channel device.trust device.creds⟩) :
    Sessions device (s.read device i rest point answers now) := by
  have only : (s.turn device i point answers now).opens =
      [⟨host, port, channel device.trust device.creds⟩] := by
    have calls : (s.turn device i point answers now).calls = _ := opens.calls
    unfold Turn.opens
    rw [calls]
    rfl
  have added : (s.read device i rest point answers now).opened =
      ⟨host, port, channel device.trust device.creds⟩ :: s.opened := by
    rw [opened_read, only, List.singleton_append]
  have dialled : (s.read device i rest point answers now).sessions = Function.update s.sessions
      (sessionKey host port) (some ⟨host, port, channel device.trust device.creds⟩) := opens.kept
  refine ⟨?_, ?_, ?_, ?_⟩
  · rw [added, dialled]
    intro key ch kept
    by_cases own : key = sessionKey host port
    · rw [own, Function.update_self, Option.some.injEq] at kept
      rw [← kept]
      exact ⟨List.mem_cons_self, own, rfl⟩
    · rw [Function.update_of_ne own] at kept
      obtain ⟨opened, rest⟩ := sessions.kept key ch kept
      exact ⟨List.mem_cons_of_mem _ opened, rest⟩
  · rw [added, dialled]
    intro ch member
    by_cases own : sessionKey ch.host ch.port = sessionKey host port
    · rw [own, Function.update_self]
      exact Option.some_ne_none _
    · rw [Function.update_of_ne own]
      rcases List.mem_cons.mp member with rfl | earlier
      · exact absurd rfl own
      · exact sessions.covered ch earlier
  · rw [added, List.map_cons, List.nodup_cons]
    refine ⟨?_, sessions.once⟩
    intro again
    obtain ⟨ch, opened, same⟩ := List.mem_map.mp again
    obtain ⟨hosts, ports⟩ := Prod.mk.inj same
    have covered := sessions.covered ch opened
    rw [hosts, ports] at covered
    exact covered opens.fresh
  · rw [added]
    intro turn member ch reads
    rcases List.mem_cons.mp member with rfl | earlier
    · have calls : (s.turn device i point answers now).calls = _ := opens.calls
      rw [calls] at reads
      have own : ch = ⟨host, port, channel device.trust device.creds⟩ := by simpa using reads
      rw [own]
      exact ⟨List.mem_cons_self, point, host, port, found, opens.endpoint, rfl⟩
    · obtain ⟨opened, rest⟩ := sessions.used turn earlier ch reads
      exact ⟨List.mem_cons_of_mem _ opened, rest⟩

theorem Sessions.step (sessions : Sessions device s) (input : Step) :
    Sessions device (s.step device input) := by
  rcases step_cases device s input with ⟨now, rfl, _, same⟩ |
    ⟨answers, now, i, rest, point, rfl, _, found, same⟩ | same
  · rw [same]
    exact ⟨sessions.kept, sessions.covered, sessions.once, sessions.used⟩
  · rw [same]
    rcases readPoint_cases device s point.binding answers with keeps | ⟨host, port, opens⟩
    · exact sessions.keep rest found now keeps
    · exact sessions.dial rest found now opens
  · rwa [same]

end Sessions

/-- The URLs fetched, each with the tick. -/
def fetches (s : PollLoop) : List (ℕ × String) := s.log.flatMap Turn.fetches

theorem mem_fetches {turn : Turn} {tick : ℕ} {url : String} :
    (tick, url) ∈ turn.fetches ↔
      tick = turn.tick ∧ ∃ answer, Call.fetchResource url answer ∈ turn.calls := by
  unfold Turn.fetches
  rw [List.mem_filterMap]
  constructor
  · rintro ⟨call, member, fetches⟩
    cases call with
    | fetchResource other answer =>
        obtain ⟨ticks, urls⟩ := Prod.mk.inj (Option.some.inj fetches)
        rw [← urls]
        exact ⟨ticks.symm, answer, member⟩
    | openChannel channel => simp at fetches
    | readOn channel => simp at fetches
    | readValue => simp at fetches
  · rintro ⟨rfl, answer, member⟩
    exact ⟨_, member, rfl⟩

/-- The reading rests on a fetch of its own URL in the tick that it belongs to. -/
def RestsOnOwn (device : DevicePoller) (s : PollLoop) (turn : Turn) : Prop :=
  ∀ point b, device.points[turn.point]? = some point → point.binding = .redfish b →
    ∃ other ∈ s.log, other.tick = turn.tick ∧ ∃ answer,
      Call.fetchResource (resourceUrl device.trust device.creds b) answer ∈ other.calls ∧
        turn.read = extractFrom device b answer

def PlainUris (device : DevicePoller) : Prop :=
  ∀ point ∈ device.points, ∀ b, point.binding = .redfish b → PlainUri b

structure Resources (device : DevicePoller) (s : PollLoop) : Prop where
  ticks : ∀ turn ∈ s.log, turn.tick ≤ s.tick
  kept : ∀ key answer, s.fetched key = some answer → ∃ turn ∈ s.log, turn.tick = s.tick ∧
    ∃ b, PlainUri b ∧ resourceKey b = key ∧
      Call.fetchResource (resourceUrl device.trust device.creds b) answer ∈ turn.calls
  covered : ∀ url, (s.tick, url) ∈ s.fetches → ∃ b, PlainUri b ∧
    resourceUrl device.trust device.creds b = url ∧ s.fetched (resourceKey b) ≠ none
  once : s.fetches.Nodup
  own : ∀ turn ∈ s.log, RestsOnOwn device s turn

section Resources

variable {device : DevicePoller} {s : PollLoop}

theorem Resources.start (device : DevicePoller) (now : Instant) :
    Resources device (start device now) := by
  refine ⟨?_, ?_, ?_, List.nodup_nil, ?_⟩
  · intro turn member
    exact absurd member List.not_mem_nil
  · rintro key answer ⟨⟩
  · intro url member
    exact absurd member List.not_mem_nil
  · intro turn member
    exact absurd member List.not_mem_nil

theorem Resources.wake (resources : Resources device s) (now : Instant) :
    Resources device (s.wake now) := by
  refine ⟨?_, ?_, ?_, resources.once, resources.own⟩
  · intro turn member
    exact (resources.ticks turn member).trans (Nat.le_succ _)
  · rintro key answer ⟨⟩
  · intro url member
    obtain ⟨turn, logged, fetched⟩ := List.mem_flatMap.mp member
    have later := resources.ticks turn logged
    rw [← (mem_fetches.mp fetched).1] at later
    exact absurd later (Nat.not_succ_le_self _)

/-- The reading fetches nothing: it finds an answer kept under its key, or it is no Redfish one. -/
structure FindsKept (device : DevicePoller) (s : PollLoop) (binding : PointBinding)
    (reading : Reading) : Prop where
  same : reading.fetched = s.fetched
  quiet : ∀ url answer, Call.fetchResource url answer ∉ reading.calls
  kept : ∀ b, binding = .redfish b → ∃ answer, s.fetched (resourceKey b) = some answer ∧
    reading.read = extractFrom device b answer

/-- The first reading of its key in the tick fetches its own URL. -/
structure FetchesOwn (device : DevicePoller) (s : PollLoop) (binding : PointBinding)
    (reading : Reading) (b : RedfishBinding) (answer : Except String Json) : Prop where
  redfish : binding = .redfish b
  free : s.fetched (resourceKey b) = none
  fetched : reading.fetched = Function.update s.fetched (resourceKey b) (some answer)
  calls : reading.calls = [.fetchResource (resourceUrl device.trust device.creds b) answer]
  read : reading.read = extractFrom device b answer

theorem readPoint_fetches (device : DevicePoller) (s : PollLoop) (binding : PointBinding)
    (answers : Answers) :
    FindsKept device s binding (readPoint device s binding answers) ∨
      ∃ b, FetchesOwn device s binding (readPoint device s binding answers) b answers.resource := by
  have session : ∀ host port, (readSession device s host port answers).fetched = s.fetched ∧
      ∀ url answer, Call.fetchResource url answer ∉
        (readSession device s host port answers).calls := by
    intro host port
    unfold readSession
    dsimp only
    split
    · exact ⟨rfl, fun _ _ member => by simp at member⟩
    · split
      · exact ⟨rfl, fun _ _ member => by simp at member⟩
      · exact ⟨rfl, fun _ _ member => by simp at member⟩
  cases binding with
  | redfish b =>
      simp only [readPoint, readResource]
      cases kept : s.fetched (resourceKey b) with
      | none => exact .inr ⟨b, rfl, kept, rfl, rfl, rfl⟩
      | some answer =>
          refine .inl ⟨rfl, fun _ _ member => by simp at member, ?_⟩
          rintro other ⟨⟩
          exact ⟨answer, kept, rfl⟩
  | modbusTcp host port b =>
      exact .inl ⟨(session host port).1, (session host port).2, fun _ same => by cases same⟩
  | sunspec host port b =>
      exact .inl ⟨(session host port).1, (session host port).2, fun _ same => by cases same⟩
  | other protocol =>
      exact .inl ⟨rfl, fun _ _ member => by simp [readPoint] at member,
        fun _ same => by cases same⟩

theorem fetches_read (i : ℕ) (rest : List ℕ) (point : Point) (answers : Answers) (now : Instant) :
    (s.read device i rest point answers now).fetches =
      (s.turn device i point answers now).fetches ++ s.fetches :=
  List.flatMap_cons

theorem RestsOnOwn.later {turn : Turn} (own : RestsOnOwn device s turn) (i : ℕ) (rest : List ℕ)
    (point : Point) (answers : Answers) (now : Instant) :
    RestsOnOwn device (s.read device i rest point answers now) turn := by
  intro other b found redfish
  obtain ⟨earlier, logged, rested⟩ := own other b found redfish
  exact ⟨earlier, List.mem_cons_of_mem _ logged, rested⟩

theorem Resources.ticks_read (resources : Resources device s) (i : ℕ) (rest : List ℕ)
    (point : Point) (answers : Answers) (now : Instant) :
    ∀ turn ∈ (s.read device i rest point answers now).log, turn.tick ≤ s.tick := by
  intro turn member
  rcases List.mem_cons.mp member with rfl | earlier
  · exact le_rfl
  · exact resources.ticks turn earlier

theorem Resources.keep (plain : PlainUris device) (resources : Resources device s) {i : ℕ}
    (rest : List ℕ) {point : Point} (found : device.points[i]? = some point) {answers : Answers}
    (now : Instant)
    (finds : FindsKept device s point.binding (readPoint device s point.binding answers)) :
    Resources device (s.read device i rest point answers now) := by
  have none : (s.turn device i point answers now).fetches = [] := by
    rw [List.eq_nil_iff_forall_not_mem]
    rintro ⟨tick, url⟩ member
    obtain ⟨_, answer, fetched⟩ := mem_fetches.mp member
    exact finds.quiet url answer fetched
  have sameFetches : (s.read device i rest point answers now).fetches = s.fetches := by
    rw [fetches_read, none, List.nil_append]
  have sameKept : (s.read device i rest point answers now).fetched = s.fetched := finds.same
  refine ⟨resources.ticks_read i rest point answers now, ?_, ?_, ?_, ?_⟩
  · rw [sameKept]
    intro key answer held
    obtain ⟨turn, logged, rested⟩ := resources.kept key answer held
    exact ⟨turn, List.mem_cons_of_mem _ logged, rested⟩
  · rw [sameFetches, sameKept]
    exact resources.covered
  · rw [sameFetches]
    exact resources.once
  · intro turn member
    rcases List.mem_cons.mp member with rfl | earlier
    · intro other b there redfish
      obtain rfl := Option.some.inj (found.symm.trans there)
      obtain ⟨answer, held, reads⟩ := finds.kept b redfish
      obtain ⟨turn, logged, tick, source, plainSource, key, fetched⟩ := resources.kept _ answer held
      have plainOwn := plain point (List.mem_of_getElem? found) b redfish
      refine ⟨turn, List.mem_cons_of_mem _ logged, tick, answer, ?_, reads⟩
      rwa [← (resourceKey_eq_iff _ _ plainSource plainOwn).mp key]
    · exact (resources.own turn earlier).later i rest point answers now

theorem Resources.fetch (plain : PlainUris device) (resources : Resources device s) {i : ℕ}
    (rest : List ℕ) {point : Point} (found : device.points[i]? = some point) {answers : Answers}
    (now : Instant) {b : RedfishBinding}
    (fetches : FetchesOwn device s point.binding (readPoint device s point.binding answers) b
      answers.resource) :
    Resources device (s.read device i rest point answers now) := by
  have plainOwn := plain point (List.mem_of_getElem? found) b fetches.redfish
  have calls : (s.turn device i point answers now).calls =
      [.fetchResource (resourceUrl device.trust device.creds b) answers.resource] := fetches.calls
  have only : (s.turn device i point answers now).fetches =
      [(s.tick, resourceUrl device.trust device.creds b)] := by
    unfold Turn.fetches
    rw [calls]
    rfl
  have fetched : (s.read device i rest point answers now).fetched =
      Function.update s.fetched (resourceKey b) (some answers.resource) := fetches.fetched
  refine ⟨resources.ticks_read i rest point answers now, ?_, ?_, ?_, ?_⟩
  · rw [fetched]
    intro key answer held
    by_cases own : key = resourceKey b
    · rw [own, Function.update_self, Option.some.injEq] at held
      refine ⟨_, List.mem_cons_self, rfl, b, plainOwn, own.symm, ?_⟩
      rw [calls, ← held]
      exact List.mem_cons_self
    · rw [Function.update_of_ne own] at held
      obtain ⟨turn, logged, rested⟩ := resources.kept key answer held
      exact ⟨turn, List.mem_cons_of_mem _ logged, rested⟩
  · rw [fetches_read, only, fetched]
    intro url member
    rcases List.mem_cons.mp member with new | earlier
    · refine ⟨b, plainOwn, (Prod.mk.inj new).2.symm, ?_⟩
      rw [Function.update_self]
      exact Option.some_ne_none _
    · obtain ⟨source, plainSource, urls, held⟩ := resources.covered url earlier
      refine ⟨source, plainSource, urls, ?_⟩
      by_cases own : resourceKey source = resourceKey b
      · rw [own, Function.update_self]
        exact Option.some_ne_none _
      · rwa [Function.update_of_ne own]
  · rw [fetches_read, only, List.singleton_append, List.nodup_cons]
    refine ⟨?_, resources.once⟩
    intro again
    obtain ⟨source, plainSource, urls, held⟩ := resources.covered _ again
    rw [(resourceKey_eq_iff _ _ plainSource plainOwn).mpr urls] at held
    exact held fetches.free
  · intro turn member
    rcases List.mem_cons.mp member with rfl | earlier
    · intro other source there redfish
      obtain rfl := Option.some.inj (found.symm.trans there)
      obtain rfl := PointBinding.redfish.inj (fetches.redfish.symm.trans redfish)
      refine ⟨_, List.mem_cons_self, rfl, answers.resource, ?_, fetches.read⟩
      rw [calls]
      exact List.mem_cons_self
    · exact (resources.own turn earlier).later i rest point answers now

theorem Resources.step (plain : PlainUris device) (resources : Resources device s) (input : Step) :
    Resources device (s.step device input) := by
  rcases step_cases device s input with ⟨now, rfl, _, same⟩ |
    ⟨answers, now, i, rest, point, rfl, _, found, same⟩ | same
  · rw [same]
    exact resources.wake now
  · rw [same]
    rcases readPoint_fetches device s point.binding answers with finds | ⟨b, fetches⟩
    · exact resources.keep plain rest found now finds
    · exact resources.fetch plain rest found now fetches
  · rwa [same]

end Resources

/-- No URL is fetched twice in a tick, and every Redfish reading is what its own pointer finds in the
answer to a fetch of its own URL in that tick. -/
theorem redfish_reading_rests_on_own_fetch {device : DevicePoller} (plain : PlainUris device)
    (boot : Instant) (steps : List Step) :
    let s := run (PollLoop.step device) (start device boot) steps
    s.fetches.Nodup ∧ ∀ turn ∈ s.log, RestsOnOwn device s turn := by
  have always : Along (PollLoop.step device) (fun _ _ => True) (start device boot) steps :=
    along_of_forall (fun _ _ => trivial) _ steps
  have resources := run_invariant (Resources device)
    (fun _ input before _ => before.step plain input) (.start device boot) always
  exact ⟨resources.once, resources.own⟩

/-! A GPU node whose power and limit are in one resource -/

def gpuPoint (pointer : String) (period : Duration) : Point :=
  ⟨"t" ++ pointer, .redfish ⟨"10.0.0.7", 443, "/Chassis/1/Power", some pointer, 1⟩, period, none, none⟩

def gpuNode : DevicePoller where
  points := [gpuPoint "/Watts" 1, gpuPoint "/Limit" 1]
  trust := none
  creds := none
  formats := ⟨fun _ => .ok (), fun _ _ => .ok (), toString⟩
  lookup := fun _ _ => none

def gpuAnswers : Answers := { slowAnswers with resource := .ok (.object []) }

theorem redfish_reading_rests_on_own_fetch_gpu_node :
    let s := run (PollLoop.step gpuNode) (start gpuNode 0)
      [.wake 0, .read gpuAnswers 1, .read gpuAnswers 2]
    s.log.length = 2 ∧ s.fetches = [(1, "http://10.0.0.7:443/redfish/v1/Chassis/1/Power")] ∧
      s.fetches.Nodup ∧ ∀ turn ∈ s.log, RestsOnOwn gpuNode s turn := by
  refine ⟨by decide +kernel, by decide +kernel, redfish_reading_rests_on_own_fetch ?_ 0 _⟩
  intro point member b redfish
  have host : '/' ∉ "10.0.0.7".toList := by decide +kernel
  have uri : "/Chassis/1/Power".toList = '/' :: "Chassis/1/Power".toList := by decide +kernel
  have plain : ∀ pointer, PlainUri ⟨"10.0.0.7", 443, "/Chassis/1/Power", pointer, 1⟩ :=
    fun _ => ⟨host, _, uri⟩
  rcases List.mem_cons.mp member with rfl | later
  · obtain rfl := PointBinding.redfish.inj redfish
    exact plain _
  · obtain rfl := List.mem_singleton.mp later
    obtain rfl := PointBinding.redfish.inj redfish
    exact plain _

end PollLoop

end EmsGateway.Poller
