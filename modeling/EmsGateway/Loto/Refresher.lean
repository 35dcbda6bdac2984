import EmsGateway.Base
import EmsGateway.Library.Runs

/-!
How a lock reaches the gateway (`loto::refresher`, the boot in `app::run`, the beacon branch of
`subscriber`). device-api owns the lock set and sends a beacon after a change; beacons collapse in
a watch channel, and each time it has one the refresher marks it seen and fetches the whole set. A
reply is the set at some moment after the fetch began. A fetch that fails keeps the last known set,
and the beacon it was for is not looked at again.
-/

namespace EmsGateway.Loto.Refresher

open EmsGateway.Library

abbrev Locks := Finset String

/-- Where the refresher's loop is: waiting for a beacon, fetching (with the reply, once device-api
has made one), or waiting for the write lock of the locked set. -/
inductive Phase where
  | waiting
  | fetching (reply : Option Locks)
  | applying (fresh : Locks)
  deriving DecidableEq

/-- `announced` are the devices locked at the last beacon and not changed since, `asked` those of
them at the start of the last fetch, and `confirmed` the devices for which such a fetch has
succeeded; all three lose a device when its lock is cleared. -/
structure System where
  deviceApi : Locks
  announced : Locks
  asked : Locks
  confirmed : Locks
  unseen : Bool
  phase : Phase
  lastFailed : Bool
  locked : Locks
  deriving DecidableEq

/-- After the boot's own fetch: the beacon channel is nudged once, so the refresher fetches again
whatever happened before the gateway was subscribed. -/
def System.boot (deviceApi fetched : Locks) : System where
  deviceApi := deviceApi
  announced := deviceApi
  asked := ∅
  confirmed := ∅
  unseen := true
  phase := .waiting
  lastFailed := false
  locked := fetched

inductive Step where
  | change (locks : Locks)
  | beacon
  | start
  | reply
  | succeed
  | fail
  | apply
  deriving DecidableEq

/-- A step that is not due changes nothing. -/
def step (s : System) (input : Step) : System :=
  match input, s.phase with
  | .change locks, _ =>
      { s with
        deviceApi := locks
        announced := s.announced ∩ locks
        asked := s.asked ∩ locks
        confirmed := s.confirmed ∩ locks }
  | .beacon, _ => { s with announced := s.deviceApi, unseen := true }
  | .start, .waiting =>
      if s.unseen then
        { s with unseen := false, phase := .fetching none, asked := s.announced }
      else s
  | .reply, .fetching _ => { s with phase := .fetching (some s.deviceApi) }
  | .succeed, .fetching (some fresh) => { s with phase := .applying fresh }
  | .fail, .fetching _ => { s with phase := .waiting, lastFailed := true }
  | .apply, .applying fresh =>
      { s with
        phase := .waiting
        lastFailed := false
        locked := fresh
        confirmed := s.confirmed ∪ s.asked }
  | _, _ => s

/-- Nothing is left to look at and nothing is on its way. -/
def System.settled (s : System) : Bool := !s.unseen && decide (s.phase = .waiting)

structure Invariant (s : System) : Prop where
  announced_locked : s.announced ⊆ s.deviceApi
  asked_locked : s.asked ⊆ s.deviceApi
  confirmed_locked : s.confirmed ⊆ s.deviceApi
  confirmed_enforced : s.confirmed ⊆ s.locked
  replied : ∀ fresh, s.phase = .fetching (some fresh) ∨ s.phase = .applying fresh →
    s.asked ⊆ fresh ∧ s.confirmed ⊆ fresh
  current : s.unseen = false → s.phase ≠ .waiting → s.announced ⊆ s.asked
  reached : s.unseen = false → s.phase = .waiting → s.lastFailed = false →
    s.announced ⊆ s.confirmed

theorem Invariant.boot (deviceApi fetched : Locks) : Invariant (.boot deviceApi fetched) := by
  refine ⟨subset_rfl, Finset.empty_subset _, Finset.empty_subset _, Finset.empty_subset _, ?_, ?_,
    ?_⟩
  · rintro fresh (⟨⟨⟩⟩ | ⟨⟨⟩⟩)
  · rintro ⟨⟩
  · rintro ⟨⟩

section Steps

variable {s : System}

theorem Invariant.change (inv : Invariant s) (locks : Locks) :
    Invariant { s with
      deviceApi := locks
      announced := s.announced ∩ locks
      asked := s.asked ∩ locks
      confirmed := s.confirmed ∩ locks } := by
  refine ⟨Finset.inter_subset_right, Finset.inter_subset_right, Finset.inter_subset_right, ?_, ?_,
    ?_, ?_⟩
  · exact Finset.inter_subset_left.trans inv.confirmed_enforced
  · intro fresh phase
    obtain ⟨asked, confirmed⟩ := inv.replied fresh phase
    exact ⟨Finset.inter_subset_left.trans asked, Finset.inter_subset_left.trans confirmed⟩
  · intro seen busy
    exact Finset.inter_subset_inter_right (inv.current seen busy)
  · intro seen waiting succeeded
    exact Finset.inter_subset_inter_right (inv.reached seen waiting succeeded)

theorem Invariant.beacon (inv : Invariant s) :
    Invariant { s with announced := s.deviceApi, unseen := true } := by
  refine ⟨subset_rfl, inv.asked_locked, inv.confirmed_locked, inv.confirmed_enforced, inv.replied,
    ?_, ?_⟩
  · rintro ⟨⟩
  · rintro ⟨⟩

theorem Invariant.start (inv : Invariant s) :
    Invariant { s with unseen := false, phase := .fetching none, asked := s.announced } := by
  refine ⟨inv.announced_locked, inv.announced_locked, inv.confirmed_locked, inv.confirmed_enforced,
    ?_, fun _ _ => subset_rfl, ?_⟩
  · rintro fresh (⟨⟨⟩⟩ | ⟨⟨⟩⟩)
  · rintro _ ⟨⟩

theorem Invariant.reply (inv : Invariant s) {reply : Option Locks}
    (phase : s.phase = .fetching reply) :
    Invariant { s with phase := .fetching (some s.deviceApi) } := by
  refine ⟨inv.announced_locked, inv.asked_locked, inv.confirmed_locked, inv.confirmed_enforced, ?_,
    ?_, ?_⟩
  · rintro fresh (⟨⟨⟩⟩ | ⟨⟨⟩⟩)
    exact ⟨inv.asked_locked, inv.confirmed_locked⟩
  · intro seen _
    exact inv.current seen (by simp [phase])
  · rintro _ ⟨⟩

theorem Invariant.succeed (inv : Invariant s) {fresh : Locks}
    (phase : s.phase = .fetching (some fresh)) :
    Invariant { s with phase := .applying fresh } := by
  refine ⟨inv.announced_locked, inv.asked_locked, inv.confirmed_locked, inv.confirmed_enforced, ?_,
    ?_, ?_⟩
  · rintro _ (⟨⟨⟩⟩ | ⟨⟨⟩⟩)
    exact inv.replied fresh (.inl phase)
  · intro seen _
    exact inv.current seen (by simp [phase])
  · rintro _ ⟨⟩

theorem Invariant.fail (inv : Invariant s) :
    Invariant { s with phase := .waiting, lastFailed := true } := by
  refine ⟨inv.announced_locked, inv.asked_locked, inv.confirmed_locked, inv.confirmed_enforced, ?_,
    ?_, ?_⟩
  · rintro fresh (⟨⟨⟩⟩ | ⟨⟨⟩⟩)
  · intro _ busy
    exact absurd rfl busy
  · rintro _ _ ⟨⟩

theorem Invariant.apply (inv : Invariant s) {fresh : Locks} (phase : s.phase = .applying fresh) :
    Invariant { s with
      phase := .waiting
      lastFailed := false
      locked := fresh
      confirmed := s.confirmed ∪ s.asked } := by
  obtain ⟨asked, confirmed⟩ := inv.replied fresh (.inr phase)
  refine ⟨inv.announced_locked, inv.asked_locked,
    Finset.union_subset inv.confirmed_locked inv.asked_locked, Finset.union_subset confirmed asked,
    ?_, ?_, ?_⟩
  · rintro _ (⟨⟨⟩⟩ | ⟨⟨⟩⟩)
  · intro _ busy
    exact absurd rfl busy
  · intro seen _ _
    exact (inv.current seen (by simp [phase])).trans Finset.subset_union_right

theorem Invariant.step (inv : Invariant s) (input : Step) : Invariant (step s input) := by
  unfold Refresher.step
  split
  · exact inv.change _
  · exact inv.beacon
  · split
    · exact inv.start
    · exact inv
  · rename_i phase
    exact inv.reply phase
  · rename_i phase
    exact inv.succeed phase
  · exact inv.fail
  · rename_i phase
    exact inv.apply phase
  · exact inv

end Steps

/-- An announced lock is enforced once a fetch that began after its beacon has succeeded, and stays
so until it is cleared, whatever later fetches do. With no beacon unseen, no fetch under way and
the last one a success, that is every lock announced by the last beacon and not changed since. -/
theorem announced_lock_enforced (deviceApi fetched : Locks) (steps : List Step) :
    (run step (.boot deviceApi fetched) steps).confirmed ⊆
        (run step (.boot deviceApi fetched) steps).locked ∧
      ((run step (.boot deviceApi fetched) steps).settled = true →
        (run step (.boot deviceApi fetched) steps).lastFailed = false →
          (run step (.boot deviceApi fetched) steps).announced ⊆
            (run step (.boot deviceApi fetched) steps).locked) := by
  have inv : Invariant (run step (.boot deviceApi fetched) steps) :=
    run_invariant Invariant (fun _ input inv _ => inv.step input) (.boot deviceApi fetched)
      (along_of_forall (fun _ _ => trivial) _ _)
  refine ⟨inv.confirmed_enforced, ?_⟩
  intro settled succeeded
  simp only [System.settled, Bool.and_eq_true, Bool.not_eq_true', decide_eq_true_eq] at settled
  exact (inv.reached settled.1 settled.2 succeeded).trans inv.confirmed_enforced

/-- A lock is set and announced, and the one fetch for its beacon fails. -/
theorem announced_lock_not_enforced :
    (run step (.boot ∅ ∅) [.start, .reply, .succeed, .apply, .change {"rack_1"}, .beacon, .start,
        .fail]).settled = true ∧
      ¬(run step (.boot ∅ ∅) [.start, .reply, .succeed, .apply, .change {"rack_1"}, .beacon, .start,
          .fail]).announced ⊆
        (run step (.boot ∅ ∅) [.start, .reply, .succeed, .apply, .change {"rack_1"}, .beacon,
          .start, .fail]).locked := by
  decide +kernel

end EmsGateway.Loto.Refresher
