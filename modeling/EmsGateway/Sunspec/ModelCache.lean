import EmsGateway.Library.Journal
import EmsGateway.Library.Runs
import EmsGateway.Sunspec.Addresses

/-!
The model maps that SunSpec requests share (`sunspec::client::models`, `forget`, and what `read_on`,
`write_setpoint`, `read_word` and `write_word` do with them). The cache is locked neither while a
device is walked nor while its registers are read or written, so requests to one device overlap, and
two that find no map both walk it. A step is one stretch between two waits; how the rest of a
request went is what the outside answers.
-/

namespace EmsGateway.Sunspec

open EmsGateway.Library EmsGateway.Modbus

structure DeviceBinding extends SunspecBinding where
  host : String
  port : BitVec 16

/-- Host, port and unit id. -/
abbrev Key := String × BitVec 16 × Fin 256

def DeviceBinding.key (b : DeviceBinding) : Except String Key := do
  let unitId ← Sunspec.key b.toSunspecBinding
  return (b.host, b.port, unitId)

inductive Request where
  | readOn
  | writeSetpoint
  | readWord
  | writeWord
  deriving DecidableEq, Repr

structure Call where
  request : Request
  binding : DeviceBinding

/-- What a request does before it asks for the models. A read is handed its session. -/
def Call.begin (call : Call) (session : Except String Unit) : Except String (Key × PointDef) :=
  let b := call.binding
  match call.request with
  | .readOn => do
      let found ← readable b.toSunspecBinding
      let key ← b.key
      return (key, found)
  | .writeSetpoint => do
      let key ← b.key
      let found ← writable b.toSunspecBinding
      if b.bit.isSome then throw s!"{b.point} bit commands aren't written as setpoints"
      else
        session
        return (key, found)
  | .readWord | .writeWord => do
      let key ← b.key
      session
      let found ← readable b.toSunspecBinding
      if found.kind = .bitfield32 then return (key, found)
      else throw s!"{b.point} isn't a bitfield"

inductive Stage where
  | begin
  | discover
  | resolve
  | exchange
  deriving DecidableEq, Repr

/-- Whether a request that fails there drops its device's map. -/
def Request.forgets (request : Request) (stage : Stage) : Bool :=
  match request, stage with
  | .readOn, .begin => false
  | .readOn, _ => true
  | .writeSetpoint, _ => true
  | .readWord, _ => false
  | .writeWord, .exchange => true
  | .writeWord, _ => false

inductive Event where
  | discovered (key : Key) (models : ModelMap)
  | obtained (call : Call) (key : Key) (models : ModelMap)
  | resolved (call : Call) (addr : Address) (sfAddr : Option Address)
  | failed (call : Call) (stage : Stage)

def Event.effect (event : Event) : Effect Key ModelMap :=
  match event with
  | .discovered key models => .set key models
  | .failed call stage =>
      match call.binding.key with
      | .ok key => if call.request.forgets stage then .drop key else .nothing
      | .error _ => .nothing
  | _ => .nothing

inductive CallState where
  | idle
  | missed (call : Call) (key : Key) (found : PointDef)
  | holding (call : Call) (key : Key) (found : PointDef) (models : ModelMap)

structure ModelCache where
  entries : Key → Option ModelMap
  calls : ℕ → CallState
  log : List Event

namespace ModelCache

def empty : ModelCache := ⟨fun _ => none, fun _ => .idle, []⟩

def record (s : ModelCache) (event : Event) : ModelCache :=
  { s with entries := event.effect.apply s.entries, log := event :: s.log }

def move (s : ModelCache) (caller : ℕ) (call : CallState) : ModelCache :=
  { s with calls := Function.update s.calls caller call }

inductive Step where
  | start (caller : ℕ) (call : Call) (session : Except String Unit)
  | walked (caller : ℕ) (device : ReadPair) (fuel : ℕ)
  | finish (caller : ℕ) (outcome : Except String Unit)

def start (s : ModelCache) (caller : ℕ) (call : Call) (session : Except String Unit) :
    ModelCache :=
  match call.begin session with
  | .error _ => s.record (.failed call .begin)
  | .ok (key, found) =>
      match s.entries key with
      | some models =>
          (s.record (.obtained call key models)).move caller (.holding call key found models)
      | none => s.move caller (.missed call key found)

def walked (s : ModelCache) (caller : ℕ) (call : Call) (key : Key) (found : PointDef)
    (answer : Except DiscoverError ModelMap) : ModelCache :=
  match answer with
  | .error _ => (s.record (.failed call .discover)).move caller .idle
  | .ok models =>
      ((s.record (.discovered key models)).record (.obtained call key models)).move caller
        (.holding call key found models)

def finish (s : ModelCache) (caller : ℕ) (call : Call) (found : PointDef) (models : ModelMap)
    (outcome : Except String Unit) : ModelCache :=
  match address models call.binding.toSunspecBinding found with
  | .error _ => (s.record (.failed call .resolve)).move caller .idle
  | .ok (addr, sfAddr) =>
      let resolved := s.record (.resolved call addr sfAddr)
      match outcome with
      | .ok _ => resolved.move caller .idle
      | .error _ => (resolved.record (.failed call .exchange)).move caller .idle

def step (s : ModelCache) (input : Step) : ModelCache :=
  match input with
  | .start caller call session =>
      match s.calls caller with
      | .idle => s.start caller call session
      | _ => s
  | .walked caller device fuel =>
      match s.calls caller, discover device fuel with
      | .missed call key found, some answer => s.walked caller call key found answer
      | _, _ => s
  | .finish caller outcome =>
      match s.calls caller with
      | .holding call _ found models => s.finish caller call found models outcome
      | _ => s

end ModelCache

/-! What a request goes by -/

theorem key_of_begin {call : Call} {session : Except String Unit} {key : Key} {found : PointDef}
    (begun : call.begin session = .ok (key, found)) :
    call.binding.key = .ok key ∧ (readable call.binding.toSunspecBinding = .ok found ∨
      writable call.binding.toSunspecBinding = .ok found) := by
  unfold Call.begin at begun
  cases request : call.request with
  | readOn =>
      simp only [request] at begun
      obtain ⟨point, read, begun⟩ := bind_ok begun
      obtain ⟨own, keyed, begun⟩ := bind_ok begun
      obtain ⟨rfl, rfl⟩ := Prod.mk.inj (Except.ok.inj begun)
      exact ⟨keyed, .inl read⟩
  | writeSetpoint =>
      simp only [request] at begun
      obtain ⟨own, keyed, begun⟩ := bind_ok begun
      obtain ⟨point, write, begun⟩ := bind_ok begun
      split at begun
      · simp at begun
      · obtain ⟨_, _, begun⟩ := bind_ok begun
        obtain ⟨rfl, rfl⟩ := Prod.mk.inj (Except.ok.inj begun)
        exact ⟨keyed, .inr write⟩
  | readWord | writeWord =>
      simp only [request] at begun
      obtain ⟨own, keyed, begun⟩ := bind_ok begun
      obtain ⟨_, _, begun⟩ := bind_ok begun
      obtain ⟨point, read, begun⟩ := bind_ok begun
      split at begun
      · obtain ⟨rfl, rfl⟩ := Prod.mk.inj (Except.ok.inj begun)
        exact ⟨keyed, .inl read⟩
      · simp at begun

/-- The newest of the walks of a device, and that nothing has dropped its map since. -/
def Newest (key : Key) (models : ModelMap) (log : List Event) : Prop :=
  ∃ since earlier, log = since ++ .discovered key models :: earlier ∧
    ∀ event ∈ since, (∀ other, event ≠ .discovered key other) ∧
      ∀ call stage, event = .failed call stage → call.binding.key = .ok key →
        call.request.forgets stage = false

def FromWalk (models : ModelMap) : Prop := ∃ device fuel, discover device fuel = some (.ok models)

/-- The registers lie at the offset of the request's own point, and of its scale factor, in a model
whose header the device showed in a walk. -/
def InShownModel (b : SunspecBinding) (models : ModelMap) (addr : Address)
    (sfAddr : Option Address) : Prop :=
  ∃ device fuel found start len, discover device fuel = some (.ok models) ∧
    point b.modelId b.point = some found ∧ HeaderOf device b.modelId start len ∧
      addr = start + found.offset ∧
        ∀ a ∈ sfAddr, ∃ sf ∈ sfPoint b.modelId found, a = start + sf.offset

/-- What stands behind an event. -/
def Event.Warrant (event : Event) (older : List Event) : Prop :=
  match event with
  | .discovered _ models => FromWalk models
  | .obtained call key models => call.binding.key = .ok key ∧ Newest key models older
  | .resolved call addr sfAddr => ∃ key models, .obtained call key models ∈ older ∧
      InShownModel call.binding.toSunspecBinding models addr sfAddr
  | .failed _ _ => True

def CallState.Sound (log : List Event) (state : CallState) : Prop :=
  match state with
  | .idle => True
  | .missed call key found => ∃ session, call.begin session = .ok (key, found)
  | .holding call key found models => (∃ session, call.begin session = .ok (key, found)) ∧
      .obtained call key models ∈ log ∧ FromWalk models

structure ModelCache.Kept (s : ModelCache) : Prop where
  entries : s.entries = replay Event.effect s.log
  calls : ∀ caller, (s.calls caller).Sound s.log
  warranted : Warranted Event.Warrant s.log

section Steps

variable {s : ModelCache}

theorem CallState.Sound.record {log : List Event} {state : CallState} (sound : state.Sound log)
    (event : Event) : state.Sound (event :: log) := by
  cases state with
  | idle => trivial
  | missed call key found => exact sound
  | holding call key found models =>
      exact ⟨sound.1, List.mem_cons_of_mem _ sound.2.1, sound.2.2⟩

theorem ModelCache.Kept.record (kept : s.Kept) {event : Event} (warrant : event.Warrant s.log) :
    (s.record event).Kept where
  entries := by
    change event.effect.apply s.entries = event.effect.apply (replay Event.effect s.log)
    rw [kept.entries]
  calls := fun caller => (kept.calls caller).record event
  warranted := kept.warranted.cons warrant

theorem ModelCache.Kept.fail (kept : s.Kept) (call : Call) (stage : Stage) :
    (s.record (.failed call stage)).Kept :=
  kept.record (show Event.Warrant (.failed call stage) s.log from trivial)

theorem ModelCache.Kept.move (kept : s.Kept) (caller : ℕ) {state : CallState} (sound : state.Sound s.log) :
    (s.move caller state).Kept where
  entries := kept.entries
  calls := by
    intro other
    by_cases own : other = caller
    · rw [own]
      simpa [ModelCache.move] using sound
    · simpa [ModelCache.move, own] using kept.calls other
  warranted := kept.warranted

/-- What is in the cache is the newest walk of the device, and was walked. -/
theorem ModelCache.Kept.newest (kept : s.Kept) {key : Key} {models : ModelMap}
    (cached : s.entries key = some models) : Newest key models s.log ∧ FromWalk models := by
  rw [kept.entries] at cached
  obtain ⟨since, event, earlier, split, sets, untouched⟩ := replay_found cached
  obtain rfl : event = .discovered key models := by
    cases event with
    | discovered other found =>
        obtain ⟨rfl, rfl⟩ := Effect.set.inj sets
        rfl
    | obtained call other found => exact absurd sets (by simp [Event.effect])
    | resolved call addr sfAddr => exact absurd sets (by simp [Event.effect])
    | failed call stage =>
        unfold Event.effect at sets
        dsimp only at sets
        split at sets
        · split at sets <;> exact absurd sets (by simp)
        · exact absurd sets (by simp)
  refine ⟨⟨since, earlier, split, ?_⟩, ?_⟩
  · intro event member
    have elsewhere := untouched event member
    refine ⟨?_, ?_⟩
    · rintro other rfl
      exact elsewhere rfl
    · rintro call stage rfl keyed
      by_contra forgets
      refine elsewhere ?_
      rw [Bool.not_eq_false] at forgets
      simp [Event.effect, keyed, forgets, Effect.On]
  · exact kept.warranted _ _ ⟨since, split.symm⟩

theorem ModelCache.Kept.start (kept : s.Kept) (caller : ℕ) (call : Call) (session : Except String Unit) :
    (s.start caller call session).Kept := by
  unfold ModelCache.start
  split
  · exact kept.fail call .begin
  · rename_i key found begun
    split
    · rename_i models cached
      obtain ⟨newest, fromWalk⟩ := kept.newest cached
      have obtained : Event.Warrant (.obtained call key models) s.log :=
        ⟨(key_of_begin begun).1, newest⟩
      exact (kept.record obtained).move caller ⟨⟨session, begun⟩, List.mem_cons_self, fromWalk⟩
    · exact kept.move caller ⟨session, begun⟩

theorem ModelCache.Kept.walked (kept : s.Kept) {caller : ℕ} {call : Call} {key : Key} {found : PointDef}
    (missed : s.calls caller = .missed call key found) {device : ReadPair} {fuel : ℕ}
    {answer : Except DiscoverError ModelMap} (walked : discover device fuel = some answer) :
    (s.walked caller call key found answer).Kept := by
  obtain ⟨session, begun⟩ : ∃ session, call.begin session = .ok (key, found) := by
    have sound := kept.calls caller
    rwa [missed] at sound
  cases answer with
  | error error => exact (kept.fail call .discover).move caller trivial
  | ok models =>
      have fromWalk : FromWalk models := ⟨device, fuel, walked⟩
      have discovered := kept.record (show Event.Warrant (.discovered key models) s.log from fromWalk)
      have newest : Newest key models (s.record (.discovered key models)).log :=
        ⟨[], s.log, rfl, by simp⟩
      have obtained := discovered.record
        (show Event.Warrant (.obtained call key models) _ from ⟨(key_of_begin begun).1, newest⟩)
      exact obtained.move caller ⟨⟨session, begun⟩, List.mem_cons_self, fromWalk⟩

theorem inShownModel_of_address {b : SunspecBinding} {models : ModelMap} (fromWalk : FromWalk models)
    {found : PointDef} (accepted : readable b = .ok found ∨ writable b = .ok found) {addr : Address}
    {sfAddr : Option Address} (resolved : address models b found = .ok (addr, sfAddr)) :
    InShownModel b models addr sfAddr := by
  obtain ⟨device, fuel, walked⟩ := fromWalk
  obtain ⟨start, recorded, position, scaled⟩ := address_eq_ok resolved
  obtain ⟨len, header⟩ := header_of_discovered walked recorded
  refine ⟨device, fuel, found, start, len, walked, point_of_accepted accepted, header, position, ?_⟩
  intro a scales
  rcases scaled with ⟨_, rfl⟩ | ⟨id, sf, named, listed, rfl⟩
  · exact absurd scales (by simp)
  · obtain rfl := Option.mem_some_iff.mp scales
    exact ⟨sf, by simp [sfPoint, named, listed], rfl⟩

theorem ModelCache.Kept.finish (kept : s.Kept) {caller : ℕ} {call : Call} {key : Key} {found : PointDef}
    {models : ModelMap} (holding : s.calls caller = .holding call key found models)
    (outcome : Except String Unit) : (s.finish caller call found models outcome).Kept := by
  obtain ⟨⟨session, begun⟩, obtained, fromWalk⟩ :
      CallState.Sound s.log (.holding call key found models) := holding ▸ kept.calls caller
  unfold ModelCache.finish
  split
  · exact (kept.fail call .resolve).move caller trivial
  · rename_i addr sfAddr located
    have shown := inShownModel_of_address fromWalk (key_of_begin begun).2 located
    have resolved := kept.record (show Event.Warrant (.resolved call addr sfAddr) s.log from
      ⟨key, models, obtained, shown⟩)
    dsimp only
    split
    · exact resolved.move caller trivial
    · exact (resolved.fail call .exchange).move caller trivial

theorem ModelCache.Kept.step (kept : s.Kept) (input : ModelCache.Step) : (s.step input).Kept := by
  cases input with
  | start caller call session =>
      unfold ModelCache.step
      dsimp only
      split
      · exact kept.start caller call session
      · exact kept
  | walked caller device fuel =>
      unfold ModelCache.step
      dsimp only
      split
      · rename_i call key found answer missed walked
        exact kept.walked missed walked
      · exact kept
  | finish caller outcome =>
      unfold ModelCache.step
      dsimp only
      split
      · rename_i call key found models holding
        exact kept.finish holding outcome
      · exact kept

end Steps

theorem ModelCache.kept_run (steps : List ModelCache.Step) :
    (run ModelCache.step .empty steps).Kept := by
  have start : ModelCache.empty.Kept := ⟨rfl, fun _ => trivial, .nil _⟩
  exact run_invariant ModelCache.Kept (fun _ input kept _ => kept.step input) start
    (along_of_forall (fun _ _ => trivial) _ _)

end EmsGateway.Sunspec
