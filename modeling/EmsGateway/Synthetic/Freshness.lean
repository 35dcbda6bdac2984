import EmsGateway.Library.Runs
import EmsGateway.Synthetic.SyntheticCore

/-!
The derived values of a site, over the broker. Pollers publish readings, the synthetic tasks publish
values of what they find in the cache, and every message is on its way for a while before it is
cached; one may be lost. Beside the cache runs when the readings were taken that an entry rests on.
A tick looks only at how long ago its inputs were received, but what it publishes then rests on no
reading older than the horizon that the limits along its inputs add up to.
-/

namespace EmsGateway.Synthetic

open EmsGateway.App EmsGateway.Library

structure Message where
  topic : String
  value : Value
  sentAt : Instant
  rests : List Instant

structure Network where
  clock : Instant
  cache : InputCache
  rests : String → List Instant
  flight : List Message

/-- `outside` is a message of another service, which the site's own readings do not reach. -/
inductive NetworkStep where
  | reading (topic : String) (value : Value) (now : Instant)
  | outside (topic : String) (value : Value) (now : Instant)
  | tick (cfg : SyntheticTaskConfig) (now : Instant)
  | deliver (index : ℕ) (now : Instant)
  | lose (index : ℕ) (now : Instant)

namespace NetworkStep

def now (step : NetworkStep) : Instant :=
  match step with
  | .reading _ _ now => now
  | .outside _ _ now => now
  | .tick _ now => now
  | .deliver _ now => now
  | .lose _ now => now

end NetworkStep

namespace Network

def initial : Network := ⟨0, fun _ => none, fun _ => [], []⟩

/-- The readings that a tick of the task rests on. An input without a limit is not the site's. -/
def inputRests (s : Network) (cfg : SyntheticTaskConfig) : List Instant :=
  (cfg.computation.topics.filter fun topic => (cfg.staleLimits topic).isSome).flatMap s.rests

def send (s : Network) (now : Instant) (message : Message) : Network :=
  { s with clock := now, flight := message :: s.flight }

def step (s : Network) (step : NetworkStep) : Network :=
  match step with
  | .reading topic value now => s.send now ⟨topic, value, now, [now]⟩
  | .outside topic value now => s.send now ⟨topic, value, now, []⟩
  | .tick cfg now =>
      match tickOnce cfg s.cache now with
      | .ok (some value) => s.send now ⟨cfg.outputTopic, .number value, now, s.inputRests cfg⟩
      | _ => { s with clock := now }
  | .deliver index now =>
      match s.flight[index]? with
      | some message =>
          { clock := now
            cache := Function.update s.cache message.topic (some (message.value, now))
            rests := Function.update s.rests message.topic message.rests
            flight := s.flight.eraseIdx index }
      | none => { s with clock := now }
  | .lose index now => { s with clock := now, flight := s.flight.eraseIdx index }

/-- No message is on its way for longer than `delay`, and only the site's tasks tick. -/
def Orderly (tasks : List SyntheticTaskConfig) (delay : ℕ) (s : Network) (step : NetworkStep) :
    Prop :=
  s.clock ≤ step.now ∧
    match step with
    | .tick cfg _ => cfg ∈ tasks
    | .deliver index now => ∀ message, s.flight[index]? = some message → now ≤ message.sentAt + delay
    | _ => True

end Network

/-! Horizons -/

/-- What a task publishes may rest on readings as old as its inputs may rest on when they are sent,
and as much older as an input may be when it is used. -/
def Horizons (tasks : List SyntheticTaskConfig) (delay : ℕ) (horizon : String → ℕ) : Prop :=
  ∀ cfg ∈ tasks, ∀ topic ∈ cfg.computation.topics, ∀ limit : ℕ, cfg.staleLimits topic = some limit →
    horizon topic + delay + limit ≤ horizon cfg.outputTopic

/-- A tick that publishes found every input cached, and each of those with a limit within it. -/
theorem tickOnce_fresh {cfg : SyntheticTaskConfig} {cache : InputCache} {now : Instant} {value : ℚ}
    (published : tickOnce cfg cache now = .ok (some value)) {topic : String}
    (input : topic ∈ cfg.computation.topics) :
    ∃ entry, cache topic = some entry ∧ (asNumber entry.1).isSome = true ∧
      ∀ limit, cfg.staleLimits topic = some limit → elapsed now entry.2 ≤ limit := by
  have of_fresh : ∀ entry, fresh cache cfg.staleLimits now topic = some entry →
      cache topic = some entry ∧
        ∀ limit, cfg.staleLimits topic = some limit → elapsed now entry.2 ≤ limit := by
    intro entry found
    obtain ⟨cached, young⟩ := Option.filter_eq_some_iff.mp found
    refine ⟨cached, ?_⟩
    intro limit limited
    rw [limited] at young
    simpa using young
  unfold tickOnce at published
  unfold Computation.topics at input
  split at published
  · rename_i operation inputTopics computation
    rw [computation] at input
    split at published
    · simp at published
    · rename_i values gathered
      unfold gatherInputs at gathered
      rw [mapM_some_eq] at gathered
      split at gathered
      · rename_i all
        have each := List.all_eq_true.mp all topic input
        obtain ⟨x, bound⟩ := Option.isSome_iff_exists.mp each
        obtain ⟨entry, found, number⟩ := Option.bind_eq_some_iff.mp bound
        obtain ⟨cached, young⟩ := of_fresh entry found
        exact ⟨entry, cached, by simp [number], young⟩
      · simp at gathered
  · rename_i pairs computation
    rw [computation] at input
    obtain ⟨pair, member, rfl⟩ := List.mem_map.mp input
    split at published
    · simp at published
    · rename_i resolved gathered
      unfold gatherPairs at gathered
      rw [mapM_some_eq] at gathered
      split at gathered
      · rename_i all
        have each := List.all_eq_true.mp all pair member
        obtain ⟨x, bound⟩ := Option.isSome_iff_exists.mp each
        obtain ⟨entry, found, number⟩ := Option.bind_eq_some_iff.mp bound
        obtain ⟨value, number, _⟩ := Option.map_eq_some_iff.mp number
        obtain ⟨cached, young⟩ := of_fresh entry found
        exact ⟨entry, cached, by simp [number], young⟩
      · simp at gathered

namespace Network

/-- Everything sent rests on readings within its horizon, and everything cached did when it was
received, but for its time on the way. -/
structure Within (delay : ℕ) (horizon : String → ℕ) (s : Network) : Prop where
  sent : ∀ message ∈ s.flight, ∀ taken ∈ message.rests,
    (message.sentAt : ℕ) ≤ taken + horizon message.topic
  cached : ∀ topic value (received : ℕ), s.cache topic = some (value, received) →
    ∀ taken ∈ s.rests topic, received ≤ taken + horizon topic + delay

section Steps

variable {tasks : List SyntheticTaskConfig} {delay : ℕ} {horizon : String → ℕ} {s : Network}

theorem Within.published (within : Within delay horizon s) (horizons : Horizons tasks delay horizon)
    {cfg : SyntheticTaskConfig} (task : cfg ∈ tasks) {now : ℕ} {value : ℚ}
    (published : tickOnce cfg s.cache now = .ok (some value)) :
    ∀ taken ∈ s.inputRests cfg, now ≤ taken + horizon cfg.outputTopic := by
  intro taken rests
  obtain ⟨topic, input, rests⟩ := List.mem_flatMap.mp rests
  obtain ⟨input, limited⟩ := List.mem_filter.mp input
  obtain ⟨limit, limited⟩ := Option.isSome_iff_exists.mp limited
  obtain ⟨⟨found, received⟩, cached, _, young⟩ := tickOnce_fresh published input
  have receivedWithin := within.cached topic found received cached taken rests
  have age := young limit limited
  have budget := horizons cfg task topic input limit limited
  simp only [elapsed] at age
  dsimp only [Instant, Duration] at *
  omega

theorem Within.send (within : Within delay horizon s) {now : Instant} {message : Message}
    (fresh : ∀ taken ∈ message.rests, (message.sentAt : ℕ) ≤ taken + horizon message.topic) :
    Within delay horizon (s.send now message) := by
  refine ⟨?_, within.cached⟩
  intro other member
  rcases List.mem_cons.mp member with rfl | earlier
  · exact fresh
  · exact within.sent other earlier

theorem Within.step (horizons : Horizons tasks delay horizon) (within : Within delay horizon s)
    {input : NetworkStep} (orderly : s.Orderly tasks delay input) :
    Within delay horizon (s.step input) := by
  cases input with
  | reading topic value now =>
      apply within.send
      intro taken rests
      obtain rfl := List.mem_singleton.mp rests
      exact Nat.le_add_right _ _
  | outside topic value now =>
      apply within.send
      intro taken rests
      exact absurd rests List.not_mem_nil
  | tick cfg now =>
      simp only [Network.step]
      split
      · rename_i value published
        exact within.send (within.published horizons orderly.2 published)
      · exact ⟨within.sent, within.cached⟩
  | deliver index now =>
      simp only [Network.step]
      split
      · rename_i message found
        have present := List.mem_of_getElem? found
        refine ⟨fun other member => within.sent other (List.mem_of_mem_eraseIdx member), ?_⟩
        intro topic value received cached
        dsimp only at cached ⊢
        by_cases own : topic = message.topic
        · subst own
          rw [Function.update_self, Option.some.injEq, Prod.mk.injEq] at cached
          rw [Function.update_self]
          intro taken rests
          have sent := within.sent message present taken rests
          have arrived := orderly.2 message found
          obtain ⟨_, rfl⟩ := cached
          dsimp only [Instant] at *
          omega
        · rw [Function.update_of_ne own] at cached ⊢
          exact within.cached topic value received cached
      · exact ⟨within.sent, within.cached⟩
  | lose index now =>
      exact ⟨fun other member => within.sent other (List.mem_of_mem_eraseIdx member), within.cached⟩

end Steps

def chained (source target : String) : SyntheticTaskConfig where
  outputTopic := target
  computation := .operation .mean [source]
  staleLimits := fun topic => if topic = source then some 5 else none

def chainTasks : List SyntheticTaskConfig := [chained "rack" "module", chained "module" "site"]

def chainSteps : List NetworkStep := [.reading "rack" (.number 50) 0, .deliver 0 1,
  .tick (chained "rack" "module") 6, .deliver 0 7]

end Network

end EmsGateway.Synthetic
