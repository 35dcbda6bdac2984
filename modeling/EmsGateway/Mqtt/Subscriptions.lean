import EmsGateway.Base
import EmsGateway.Library.Runs

/-!
The gateway's MQTT subscriptions (`mqtt::subscriptions`) against what the broker has. An update
unsubscribes what the topology dropped, subscribes what it added and only then stores the new list;
a request that fails ends it with the old list still stored. A reconnect finds the broker without
any subscription and re-issues the stored list. A failed request may have reached the broker.
-/

namespace EmsGateway.Mqtt

open EmsGateway.Library

def topologyChanged : String := "system/topology_changed"

def lotoChanged : String := "system/loto_changed"

def beaconQos : ℕ := 1

def measurementQos : ℕ := 0

def commandQos : ℕ := 1

def subscriptionList (siteId : String) (inputTopics : List String) : List String × List ℕ :=
  ([topologyChanged, lotoChanged, s!"sites/{siteId}/devices/+/commands/#"] ++ inputTopics,
    [beaconQos, beaconQos, commandQos] ++ inputTopics.map fun _ => measurementQos)

/-- What `new` adds to `old`, and what it drops of it. -/
def diff (old new : List String) : List String × List String :=
  (new.filter fun t => t ∉ old, old.filter fun t => t ∉ new)

/-- How far `Subscriptions::update` is, with its local variables. -/
inductive Update where
  | idle
  | unsubscribing (next : List String × List ℕ) (added removed : List String)
  | subscribing (next : List String × List ℕ) (added removed : List String)
  | storing (next : List String × List ℕ) (added : List String)
  deriving DecidableEq, Repr

structure Subscriptions where
  siteId : String
  current : List String × List ℕ
  broker : Finset String
  update : Update

/-- `subscriber::subscribe`: the list of the boot, subscribed before anything else happens. -/
def Subscriptions.established (siteId : String) (inputTopics : List String) : Subscriptions where
  siteId := siteId
  current := subscriptionList siteId inputTopics
  broker := (subscriptionList siteId inputTopics).1.toFinset
  update := .idle

inductive Outcome where
  | acked
  | failed (applied : Bool)
  deriving DecidableEq, Repr

def Outcome.applies (outcome : Outcome) : Bool :=
  match outcome with
  | .acked => true
  | .failed applied => applied

inductive Step where
  | begin (inputTopics : List String)
  | unsubscribe (outcome : Outcome)
  | subscribe (outcome : Outcome)
  | store
  | reconnect
  deriving DecidableEq, Repr

/-- Past the unsubscribe: nothing to subscribe goes straight to the store. -/
def afterUnsubscribe (next : List String × List ℕ) (added removed : List String) : Update :=
  if added.isEmpty then .storing next added else .subscribing next added removed

def beginUpdate (s : Subscriptions) (inputTopics : List String) : Subscriptions :=
  let next := subscriptionList s.siteId inputTopics
  let (added, removed) := diff s.current.1 next.1
  { s with
    update :=
      if removed.isEmpty then afterUnsubscribe next added removed
      else .unsubscribing next added removed }

/-- A step that is not due changes nothing. -/
def step (s : Subscriptions) (input : Step) : Subscriptions :=
  match input, s.update with
  | .begin inputTopics, .idle => beginUpdate s inputTopics
  | .unsubscribe outcome, .unsubscribing next added removed =>
      { s with
        broker := if outcome.applies then s.broker \ removed.toFinset else s.broker
        update := if outcome = .acked then afterUnsubscribe next added removed else .idle }
  | .subscribe outcome, .subscribing next added _ =>
      { s with
        broker := if outcome.applies then s.broker ∪ added.toFinset else s.broker
        update := if outcome = .acked then .storing next added else .idle }
  | .store, .storing next _ => { s with current := next, update := .idle }
  | .reconnect, _ => { s with broker := s.current.1.toFinset }
  | _, _ => s

/-- With no update in progress the broker has every topic of the stored list. -/
def Hears (s : Subscriptions) : Prop :=
  s.update = .idle → ∀ topic ∈ s.current.1, topic ∈ s.broker

instance (s : Subscriptions) : Decidable (Hears s) :=
  inferInstanceAs (Decidable (s.update = .idle → ∀ topic ∈ s.current.1, topic ∈ s.broker))

/-- No unsubscribe that the broker carried out is reported as failed, no subscribe fails while a
topic that its update unsubscribed is off at the broker, and no list is stored while a topic it
adds is off again, a reconnect having re-issued the old list. -/
def Harmless (s : Subscriptions) (input : Step) : Prop :=
  (input = .unsubscribe (.failed true) → ∀ next added removed,
    s.update ≠ .unsubscribing next added removed) ∧
  (∀ applied, input = .subscribe (.failed applied) → ∀ next added removed,
    s.update = .subscribing next added removed → ∀ topic ∈ removed, topic ∈ s.broker) ∧
  (input = .store → ∀ next added,
    s.update = .storing next added → ∀ topic ∈ added, topic ∈ s.broker)

/-! What holds while an update is on its way -/

structure Follows (s : Subscriptions) : Prop where
  idle : s.update = .idle → ∀ topic ∈ s.current.1, topic ∈ s.broker
  unsubscribing : ∀ next added removed, s.update = .unsubscribing next added removed →
    diff s.current.1 next.1 = (added, removed) ∧ removed ≠ [] ∧
      ∀ topic ∈ s.current.1, topic ∈ s.broker
  subscribing : ∀ next added removed, s.update = .subscribing next added removed →
    diff s.current.1 next.1 = (added, removed) ∧
      ∀ topic ∈ s.current.1, topic ∈ next.1 → topic ∈ s.broker
  storing : ∀ next added, s.update = .storing next added →
    (diff s.current.1 next.1).1 = added ∧
      ∀ topic ∈ s.current.1, topic ∈ next.1 → topic ∈ s.broker

theorem mem_diff {old new added removed : List String} (split : diff old new = (added, removed))
    {topic : String} :
    (topic ∈ added ↔ topic ∈ new ∧ topic ∉ old) ∧
      (topic ∈ removed ↔ topic ∈ old ∧ topic ∉ new) := by
  obtain ⟨rfl, rfl⟩ := Prod.mk.inj split
  simp

section Steps

variable {s : Subscriptions}

theorem follows_of_idle {siteId : String} {current : List String × List ℕ} {broker : Finset String}
    (heard : ∀ topic ∈ current.1, topic ∈ broker) :
    Follows ⟨siteId, current, broker, .idle⟩ := by
  refine ⟨fun _ => heard, ?_, ?_, ?_⟩
  · rintro _ _ _ ⟨⟩
  · rintro _ _ _ ⟨⟩
  · rintro _ _ ⟨⟩

theorem follows_storing {siteId : String} {current next : List String × List ℕ}
    {broker : Finset String} {added : List String} (new : (diff current.1 next.1).1 = added)
    (kept : ∀ topic ∈ current.1, topic ∈ next.1 → topic ∈ broker) :
    Follows ⟨siteId, current, broker, .storing next added⟩ := by
  refine ⟨?_, ?_, ?_, ?_⟩
  · rintro ⟨⟩
  · rintro _ _ _ ⟨⟩
  · rintro _ _ _ ⟨⟩
  · rintro _ _ ⟨⟩
    exact ⟨new, kept⟩

theorem follows_afterUnsubscribe {siteId : String} {current next : List String × List ℕ}
    {broker : Finset String} {added removed : List String}
    (split : diff current.1 next.1 = (added, removed))
    (kept : ∀ topic ∈ current.1, topic ∈ next.1 → topic ∈ broker) :
    Follows ⟨siteId, current, broker, afterUnsubscribe next added removed⟩ := by
  unfold afterUnsubscribe
  split
  · exact follows_storing (by rw [split]) kept
  · refine ⟨?_, ?_, ?_, ?_⟩
    · rintro ⟨⟩
    · rintro _ _ _ ⟨⟩
    · rintro _ _ _ ⟨⟩
      exact ⟨split, kept⟩
    · rintro _ _ ⟨⟩

theorem Follows.beginUpdate (follows : Follows s) (idle : s.update = .idle)
    (inputTopics : List String) : Follows (beginUpdate s inputTopics) := by
  have heard := follows.idle idle
  unfold Mqtt.beginUpdate
  dsimp only
  split
  · exact follows_afterUnsubscribe rfl fun topic member _ => heard topic member
  · rename_i drops
    refine ⟨?_, ?_, ?_, ?_⟩
    · rintro ⟨⟩
    · rintro _ _ _ ⟨⟩
      exact ⟨rfl, by simpa [List.isEmpty_iff] using drops, heard⟩
    · rintro _ _ _ ⟨⟩
    · rintro _ _ ⟨⟩

theorem Follows.unsubscribe (follows : Follows s) {outcome : Outcome}
    (harmless : Harmless s (.unsubscribe outcome)) {next : List String × List ℕ}
    {added removed : List String} (phase : s.update = .unsubscribing next added removed) :
    Follows { s with
      broker := if outcome.applies then s.broker \ removed.toFinset else s.broker
      update := if outcome = .acked then afterUnsubscribe next added removed else .idle } := by
  obtain ⟨split, _, heard⟩ := follows.unsubscribing _ _ _ phase
  cases outcome with
  | acked =>
      refine follows_afterUnsubscribe split ?_
      intro topic member stays
      have kept : topic ∉ removed := fun drops => ((mem_diff split).2.mp drops).2 stays
      simp [Outcome.applies, heard topic member, kept]
  | failed applied =>
      cases applied with
      | true => exact absurd phase (harmless.1 rfl next added removed)
      | false => exact follows_of_idle (by simpa [Outcome.applies] using heard)

theorem Follows.subscribe (follows : Follows s) {outcome : Outcome}
    (harmless : Harmless s (.subscribe outcome)) {next : List String × List ℕ}
    {added removed : List String} (phase : s.update = .subscribing next added removed) :
    Follows { s with
      broker := if outcome.applies then s.broker ∪ added.toFinset else s.broker
      update := if outcome = .acked then .storing next added else .idle } := by
  obtain ⟨split, kept⟩ := follows.subscribing _ _ _ phase
  cases outcome with
  | acked =>
      refine follows_storing (by rw [split]) ?_
      intro topic member stays
      simp [Outcome.applies, kept topic member stays]
  | failed applied =>
      have restored := harmless.2.1 applied rfl next added removed phase
      refine follows_of_idle ?_
      intro topic member
      have heard : topic ∈ s.broker := by
        by_cases stays : topic ∈ next.1
        · exact kept topic member stays
        · exact restored topic ((mem_diff split).2.mpr ⟨member, stays⟩)
      split
      · exact Finset.mem_union_left _ heard
      · exact heard

theorem Follows.store (follows : Follows s) (harmless : Harmless s .store)
    {next : List String × List ℕ} {added : List String} (phase : s.update = .storing next added) :
    Follows { s with current := next, update := .idle } := by
  obtain ⟨new, kept⟩ := follows.storing _ _ phase
  have subscribed := harmless.2.2 rfl next added phase
  refine follows_of_idle ?_
  intro topic member
  by_cases old : topic ∈ s.current.1
  · exact kept topic old member
  · refine subscribed topic ?_
    rw [← new]
    exact ((mem_diff rfl).1).mpr ⟨member, old⟩

theorem Follows.reconnect (follows : Follows s) :
    Follows { s with broker := s.current.1.toFinset } := by
  have heard : ∀ topic ∈ s.current.1, topic ∈ s.current.1.toFinset := by
    intro topic member
    exact List.mem_toFinset.mpr member
  refine ⟨fun _ => heard, ?_, ?_, ?_⟩
  · intro next added removed phase
    obtain ⟨split, drops, _⟩ := follows.unsubscribing next added removed phase
    exact ⟨split, drops, heard⟩
  · intro next added removed phase
    exact ⟨(follows.subscribing next added removed phase).1, fun topic member _ =>
      heard topic member⟩
  · intro next added phase
    exact ⟨(follows.storing next added phase).1, fun topic member _ => heard topic member⟩

theorem Follows.step (follows : Follows s) {input : Step} (harmless : Harmless s input) :
    Follows (step s input) := by
  unfold Mqtt.step
  split
  · rename_i inputTopics idle
    exact follows.beginUpdate idle inputTopics
  · rename_i phase
    exact follows.unsubscribe harmless phase
  · rename_i phase
    exact follows.subscribe harmless phase
  · rename_i phase
    exact follows.store harmless phase
  · exact follows.reconnect
  · exact follows

theorem harmless_of_hears (follows : Follows s) {input : Step}
    (hears : Hears (step s input)) : Harmless s input := by
  refine ⟨?_, ?_, ?_⟩
  · rintro rfl next added removed phase
    obtain ⟨split, drops, _⟩ := follows.unsubscribing next added removed phase
    obtain ⟨topic, dropped⟩ := List.exists_mem_of_ne_nil removed drops
    have heard : ∀ topic ∈ s.current.1, topic ∈ s.broker \ removed.toFinset := by
      simpa [Mqtt.step, phase, Hears, Outcome.applies] using hears
    have kept := heard topic ((mem_diff split).2.mp dropped).1
    exact (Finset.mem_sdiff.mp kept).2 (List.mem_toFinset.mpr dropped)
  · rintro applied rfl next added removed phase topic dropped
    obtain ⟨split, _⟩ := follows.subscribing next added removed phase
    obtain ⟨old, gone⟩ := (mem_diff split).2.mp dropped
    have heard : topic ∈ if applied then s.broker ∪ added.toFinset else s.broker := by
      simp only [Mqtt.step, phase, Hears, Outcome.applies] at hears
      exact hears rfl topic old
    split at heard
    · rcases Finset.mem_union.mp heard with before | fresh
      · exact before
      · exact absurd ((mem_diff split).1.mp (List.mem_toFinset.mp fresh)).1 gone
    · exact heard
  · rintro rfl next added phase topic fresh
    obtain ⟨new, _⟩ := follows.storing next added phase
    rw [← new] at fresh
    simp only [Mqtt.step, phase, Hears] at hears
    exact hears trivial topic ((mem_diff rfl).1.mp fresh).1

end Steps

theorem never_deaf_iff (siteId : String) (inputTopics : List String) (steps : List Step) :
    Along step (fun s input => Hears (step s input)) (.established siteId inputTopics) steps ↔
      Along step Harmless (.established siteId inputTopics) steps := by
  refine along_iff_of_invariant Follows ?_ (fun _ _ follows harmless => follows.step harmless) ?_
  · intro s input follows
    constructor
    · exact harmless_of_hears follows
    · intro harmless
      exact (follows.step harmless).idle
  · exact follows_of_idle fun topic member => List.mem_toFinset.mpr member

example : Along step (fun s input => Hears (step s input)) (.established "site" ["site/a"])
    [.begin ["site/b"], .unsubscribe .acked, .reconnect, .subscribe .acked, .store] := by
  decide +kernel

/-- A subscribe that fails after the unsubscribe, and a reconnect just before the store. -/
theorem deaf_after_update :
    ¬Along step (fun s input => Hears (step s input)) (.established "site" ["site/a"])
        [.begin ["site/b"], .unsubscribe .acked, .subscribe (.failed false)] ∧
      ¬Along step (fun s input => Hears (step s input)) (.established "site" ["site/a"])
        [.begin ["site/a", "site/b"], .subscribe .acked, .reconnect, .store] := by
  decide +kernel

end EmsGateway.Mqtt
