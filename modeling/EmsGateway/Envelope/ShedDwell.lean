import EmsGateway.Envelope.ShedDirection
import EmsGateway.Library.History

/-!
Storage first, compute second. Each of the two timers of the controller is only ever started from
zero and added to by ticks of its own kind, so what it shows is a stretch of such ticks up to the
last one; and no cut and no raise gets past it, but for storage that is spent and an export.
-/

namespace EmsGateway.Envelope

open EmsGateway.Library

namespace ShedController

variable {config : EnvelopeConfig} {fleet : Fleet} {c : ShedController} {t : ShedTick}

theorem target_overFor (c : ShedController) (t : ShedTick) :
    (c.target t).1.overFor = 0 ∨
      t.exported ≤ 0 ∧ 0 < t.overLimit ∧ (c.target t).1.overFor = c.overFor + t.dt := by
  unfold target
  dsimp only
  rw [← ShedTick.exported, ← ShedTick.overLimit]
  split
  · exact .inl rfl
  · rename_i within
    split
    · rename_i beyond
      split_ifs with waiting closing
      · exact .inl rfl
      · exact .inr ⟨not_lt.mp within, beyond, rfl⟩
      · exact .inr ⟨not_lt.mp within, beyond, rfl⟩
    · split
      · split <;> exact .inl rfl
      · exact .inl rfl

theorem target_clearFor (c : ShedController) (t : ShedTick) :
    (c.target t).1.clearFor = 0 ∨
      c.Recovering t ∧ (c.target t).1.clearFor = c.clearFor + t.dt := by
  unfold target
  dsimp only
  rw [← ShedTick.exported, ← ShedTick.overLimit]
  split
  · exact .inl rfl
  · rename_i within
    split
    · left
      split_ifs <;> rfl
    · rename_i under
      split
      · rename_i recovery
        right
        refine ⟨⟨not_lt.mp within, not_lt.mp under, recovery.1, recovery.2⟩, ?_⟩
        split <;> rfl
      · exact .inl rfl

/-! A moment of a run: the controller, and the tick it meets. -/

def OverMoment (moment : ShedController × ShedBeat) : Prop :=
  moment.2.tick.exported ≤ 0 ∧ 0 < moment.2.tick.overLimit

def ClearMoment (moment : ShedController × ShedBeat) : Prop := moment.1.Recovering moment.2.tick

def lasting (moment : ShedController × ShedBeat) : Duration := moment.2.tick.dt

structure Timed (past : List (ShedController × ShedBeat)) (c : ShedController) : Prop where
  overFor : Sustained OverMoment lasting past c.overFor
  clearFor : Sustained ClearMoment lasting past c.clearFor

theorem Timed.beat {past : List (ShedController × ShedBeat)} (timed : Timed past c)
    (b : ShedBeat) : Timed (past ++ [(c, b)]) (c.beat b) := by
  have timers : (c.beat b).overFor = (c.target b.tick).1.overFor ∧
      (c.beat b).clearFor = (c.target b.tick).1.clearFor := by
    rcases c.beat_cases b with unconfirmed | ⟨percent, _, confirmed⟩
    · rw [unconfirmed]
      exact ⟨rfl, rfl⟩
    · rw [confirmed]
      exact ⟨rfl, rfl⟩
  refine ⟨?_, ?_⟩
  · rw [timers.1]
    rcases c.target_overFor b.tick with restarted | ⟨within, beyond, longer⟩
    · rw [restarted]
      exact .zero _ _ _
    · rw [longer]
      exact (timed.overFor.upTo (show OverMoment (c, b) from ⟨within, beyond⟩)).sustained
  · rw [timers.2]
    rcases c.target_clearFor b.tick with restarted | ⟨recovering, longer⟩
    · rw [restarted]
      exact .zero _ _ _
    · rw [longer]
      exact (timed.clearFor.upTo (show ClearMoment (c, b) from recovering)).sustained

theorem timed_run (config : EnvelopeConfig) (beats : List ShedBeat) :
    Timed (history beat (new config) beats)
      (run beat (new config) beats) := by
  have start : Timed [] (new config) := ⟨.zero _ _ _, .zero _ _ _⟩
  have unrestricted : (fun _ : List (ShedController × ShedBeat) => True)
      (history beat (new config) beats) := trivial
  exact history_invariant (fun _ _ _ => trivial) (fun _ _ b _ timed => timed.beat b) start
    unrestricted

theorem not_halfway_of_onGrid {percent : ℚ} (grid : OnGrid percent) : ¬Halfway percent := by
  obtain ⟨n, rfl⟩ := grid
  rintro ⟨m, half⟩
  have doubled : 2 * n = 2 * m + 1 := by
    have scaled : (2 * n : ℚ) = 2 * m + 1 := by linarith
    exact_mod_cast scaled
  omega

/-- A cut is proposed only once storage is spent or had the dwell to answer, a raise inside the
export limit only once there was headroom for the dwell. -/
theorem shed_after_storage {config : EnvelopeConfig} (forward : 0 ≤ config.rampRatePerSec)
    {fleet : Fleet} (grid : OnGrid fleet.floor) {beats : List ShedBeat}
    (metered : ∀ b ∈ beats, fleet.Metered b.tick) {b : ShedBeat} (here : fleet.Metered b.tick)
    {percent : ℚ}
    (proposed : ((run beat (new config) beats).tick b.tick).2 = some percent) :
    (percent < (run beat (new config) beats).current b.tick →
      b.tick.storageSpareW < config.hysteresisMargin * fleet.maxW ∨
        SustainedTo OverMoment lasting (history beat (new config) beats)
          (run beat (new config) beats, b) config.hysteresisDwell) ∧
    ((run beat (new config) beats).current b.tick < percent →
      b.tick.exported ≤ 0 →
        SustainedTo ClearMoment lasting (history beat (new config) beats)
          (run beat (new config) beats, b) config.hysteresisDwell) := by
  have timed := timed_run config beats
  have runs := runs_run config metered
  generalize run beat (new config) beats = c at *
  have cases := runs.proposed_cases here forward (not_halfway_of_onGrid grid) proposed
  rw [runs.config] at cases
  constructor
  · intro lower
    rcases cases with ⟨_, higher⟩ | ⟨within, beyond, unanswered, _⟩ | ⟨_, _, higher⟩
    · exact absurd lower higher.not_gt
    · rcases unanswered with spent | waited
      · rw [storageSpent, runs.config, here.1] at spent
        exact .inl spent
      · exact .inr ((timed.overFor.upTo (show OverMoment (c, b) from
          ⟨within, beyond⟩)).shorter waited)
    · exact absurd lower higher.not_gt
  · intro higher within
    rcases cases with ⟨past, _⟩ | ⟨_, _, _, lower⟩ | ⟨recovering, waited, _⟩
    · exact absurd past (not_lt.mpr within)
    · exact absurd higher lower.not_gt
    · exact (timed.clearFor.upTo (show ClearMoment (c, b) from recovering)).shorter waited

theorem gpuFleet_onGrid : OnGrid gpuFleet.floor := ⟨200, by norm_num [Fleet.floor, gpuFleet]⟩

/-- Thirty seconds at 30 kW over the limit come before the first cut, to 90 percent. -/
theorem shed_after_storage_thirty_seconds :
    ((run beat (new gpuConfig)
      (List.replicate 29 ⟨importing 30000, true⟩)).tick (importing 30000)).2 = some 90 ∧
    SustainedTo OverMoment lasting
      (history beat (new gpuConfig) (List.replicate 29 ⟨importing 30000, true⟩))
      (run beat (new gpuConfig) (List.replicate 29 ⟨importing 30000, true⟩),
        ⟨importing 30000, true⟩) (Duration.fromSecs 30) := by
  have proposed : ((run beat (new gpuConfig)
      (List.replicate 29 ⟨importing 30000, true⟩)).tick (importing 30000)).2 = some 90 := by
    decide +kernel
  have allowed := (shed_after_storage (by norm_num [gpuConfig]) gpuFleet_onGrid
    (by decide +kernel) (b := ⟨importing 30000, true⟩) (by decide +kernel) proposed).1
    (by decide +kernel)
  exact ⟨proposed, allowed.resolve_left (by decide +kernel)⟩

def backwardConfig : EnvelopeConfig := ⟨-1 / 10, 1 / 20, Duration.fromSecs 30⟩

/-- With a ramp that runs backwards an export is answered by a cut, though import was never over
its limit and storage could answer. -/
theorem shed_before_storage_when_ramp_runs_backwards :
    ¬∀ (config : EnvelopeConfig) (fleet : Fleet), OnGrid fleet.floor →
      ∀ (beats : List ShedBeat) (b : ShedBeat) (percent : ℚ),
        (∀ b ∈ beats, fleet.Metered b.tick) → fleet.Metered b.tick →
        ((run beat (new config) beats).tick b.tick).2 = some percent →
        percent < (run beat (new config) beats).current b.tick →
        b.tick.storageSpareW < config.hysteresisMargin * fleet.maxW ∨
          SustainedTo OverMoment lasting (history beat (new config) beats)
            (run beat (new config) beats, b) config.hysteresisDwell := by
  intro claimed
  rcases claimed backwardConfig gpuFleet gpuFleet_onGrid [] ⟨importing (-10000), true⟩ 90
      (by decide) (by decide +kernel) (by decide +kernel) (by decide +kernel) with
    spent | sustained
  · exact absurd spent (by decide +kernel)
  · exact absurd sustained.last.1 (by decide +kernel)

end ShedController

end EmsGateway.Envelope
