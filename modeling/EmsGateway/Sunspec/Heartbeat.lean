import EmsGateway.Library.Runs
import EmsGateway.Sunspec.HeartbeatCore

/-!
What a command word may assert: over the life of one heartbeat, only what was commanded since
the word was seeded; and across stops of the heartbeat, nothing that was commanded before one.
-/

namespace EmsGateway.Sunspec

open EmsGateway.Dispatch EmsGateway.Library

/-! Single bits -/

theorem getLsbD_bitMask (bit i : Fin 32) : (bitMask bit).getLsbD i = decide (bit = i) := by
  unfold bitMask
  rw [← BitVec.twoPow_eq, BitVec.getLsbD_twoPow]
  simp [bit.isLt, Fin.ext_iff]

theorem getLsbD_latched (word : CommandWord) (bit i : Fin 32) :
    (word ||| bitMask bit).getLsbD i = if bit = i then true else word.getLsbD i := by
  rw [BitVec.getLsbD_or, getLsbD_bitMask]
  by_cases own : bit = i
  · rw [if_pos own, decide_eq_true own, Bool.or_true]
  · rw [if_neg own, decide_eq_false own, Bool.or_false]

theorem getLsbD_masked (word mask : CommandWord) (i : Fin 32) :
    (word &&& ~~~mask).getLsbD i = (word.getLsbD i && !mask.getLsbD i) := by
  rw [BitVec.getLsbD_and, BitVec.getLsbD_not, decide_eq_true i.isLt, Bool.true_and]

theorem getLsbD_released (word : CommandWord) (bit i : Fin 32) :
    (word &&& ~~~bitMask bit).getLsbD i = if bit = i then false else word.getLsbD i := by
  rw [getLsbD_masked, getLsbD_bitMask]
  by_cases own : bit = i
  · rw [if_pos own, decide_eq_true own, Bool.not_true, Bool.and_false]
  · rw [if_neg own, decide_eq_false own, Bool.not_false, Bool.and_true]

/-- What a bit command writes now and keeps, bit by bit. -/
def AppliesTo (word : CommandWord) (bit : Fin 32) (action : BitAction)
    (now keep : CommandWord) : Prop :=
  ∀ i : Fin 32,
    (now.getLsbD i = if bit = i then decide (action ≠ .clear) else word.getLsbD i) ∧
      keep.getLsbD i = if bit = i then decide (action = .set) else word.getLsbD i

theorem apply_bits (word : CommandWord) (bit : Fin 32) (action : BitAction) :
    ∃ now keep, apply (some word) bit action = .ok (now, keep) ∧
      AppliesTo word bit action now keep := by
  cases action with
  | set =>
      refine ⟨_, _, rfl, fun i => ⟨?_, ?_⟩⟩
      · exact getLsbD_latched word bit i
      · exact getLsbD_latched word bit i
  | clear =>
      refine ⟨_, _, rfl, fun i => ⟨?_, ?_⟩⟩
      · exact getLsbD_released word bit i
      · exact getLsbD_released word bit i
  | pulse =>
      refine ⟨_, _, rfl, fun i => ⟨?_, ?_⟩⟩
      · exact getLsbD_latched word bit i
      · exact getLsbD_released word bit i

/-! One heartbeat -/

inductive WordStep (owned : CommandWord) where
  | beat (steerable : Bool) (read : Except String CommandWord)
  | command (bit : Fin 32) (isOwned : owned.getLsbD bit = true) (action : BitAction)
      (succeeds : Bool)

/-- The slot, with the last seed read and each bit's latest successful command since. -/
structure WordRun where
  slot : Slot
  seed : CommandWord
  latest : Fin 32 → Option BitAction

namespace WordRun

def start : WordRun := ⟨none, 0, fun _ => none⟩

variable {owned : CommandWord}

def operation (run : WordRun) : WordStep owned → Operation
  | .beat steerable read => Sunspec.beat owned run.slot steerable read
  | .command bit _ action succeeds => writeBit run.slot bit action succeeds

def step (run : WordRun) (step : WordStep owned) : WordRun :=
  let after := (run.operation step).slot
  match step, run.slot with
  | .beat true (.ok read), none => ⟨after, read, fun _ => none⟩
  | .command bit _ action true, some _ =>
      ⟨after, run.seed, Function.update run.latest bit (some action)⟩
  | _, _ => ⟨after, run.seed, run.latest⟩

end WordRun

def Asserts (owned : CommandWord) (run : WordRun) (word : CommandWord) (i : Fin 32) : Prop :=
  (owned.getLsbD i = false → word.getLsbD i = run.seed.getLsbD i) ∧
    (owned.getLsbD i = true → (word.getLsbD i = true ↔ run.latest i = some .set))

def WordStep.bit {owned : CommandWord} : WordStep owned → Option (Fin 32)
  | .beat _ _ => none
  | .command bit _ _ _ => some bit

/-- What holds of a word a step writes: a beat asserts what was commanded, and so does a command
outside of its own bit; a pulse has its bit on, and once pulsed a bit is off in every word until a
command on it. -/
structure WordLaw {owned : CommandWord} (run : WordRun) (step : WordStep owned)
    (word : CommandWord) : Prop where
  asserted : ∀ i, step.bit ≠ some i → Asserts owned (run.step step) word i
  pulsed : ∀ bit isOwned succeeds, step = .command bit isOwned .pulse succeeds →
    word.getLsbD bit = true
  released : ∀ i, run.latest i = some .pulse → step.bit ≠ some i → word.getLsbD i = false

structure Faithful (owned : CommandWord) (run : WordRun) : Prop where
  asserts : ∀ word, run.slot = some word → ∀ i, Asserts owned run word i
  ownedOnly : ∀ i, run.latest i ≠ none → owned.getLsbD i = true

section OneHeartbeat

variable {owned : CommandWord} {run : WordRun}

theorem Faithful.pulse_off (faithful : Faithful owned run) {word : CommandWord}
    (slot : run.slot = some word) {i : Fin 32} (pulse : run.latest i = some .pulse) :
    word.getLsbD i = false := by
  have isOwned := faithful.ownedOnly i (by rw [pulse]; simp)
  have isSet := (faithful.asserts word slot i).2 isOwned
  rw [pulse] at isSet
  simpa using isSet

theorem asserts_seeded (seed : CommandWord) (i : Fin 32) :
    Asserts owned ⟨some (seed &&& ~~~owned), seed, fun _ => none⟩ (seed &&& ~~~owned) i := by
  unfold Asserts
  rw [getLsbD_masked]
  refine ⟨?_, ?_⟩
  · intro free
    rw [free, Bool.not_false, Bool.and_true]
  · intro isOwned
    rw [isOwned]
    simp

theorem WordRun.beat_cases (run : WordRun) (steerable : Bool)
    (read : Except String CommandWord) :
    (run.step (.beat steerable read : WordStep owned) = { run with slot := none } ∧
      (run.operation (.beat steerable read : WordStep owned)).written = none) ∨
    (∃ word, run.slot = some word ∧ run.step (.beat steerable read : WordStep owned) = run ∧
      (run.operation (.beat steerable read : WordStep owned)).written = some word) ∨
    ∃ seed, run.step (.beat steerable read : WordStep owned) =
        ⟨some (seed &&& ~~~owned), seed, fun _ => none⟩ ∧
      (run.operation (.beat steerable read : WordStep owned)).written =
        some (seed &&& ~~~owned) := by
  obtain ⟨slot, seed, latest⟩ := run
  cases steerable with
  | false => exact .inl ⟨by cases read <;> cases slot <;> rfl, rfl⟩
  | true =>
      cases slot with
      | some word => exact .inr (.inl ⟨word, rfl, by cases read <;> rfl, rfl⟩)
      | none =>
          cases read with
          | error message => exact .inl ⟨rfl, rfl⟩
          | ok fresh => exact .inr (.inr ⟨fresh, rfl, rfl⟩)

theorem WordRun.command_cases (run : WordRun) (bit : Fin 32) (isOwned : owned.getLsbD bit = true)
    (action : BitAction) (succeeds : Bool) :
    (run.step (.command bit isOwned action succeeds) = run ∧
      (run.operation (.command bit isOwned action succeeds)).written = none) ∨
    ∃ current now keep, run.slot = some current ∧ AppliesTo current bit action now keep ∧
      (run.operation (.command bit isOwned action succeeds)).written = some now ∧
      (run.step (.command bit isOwned action succeeds) = run ∨
        run.step (.command bit isOwned action succeeds) =
          ⟨some keep, run.seed, Function.update run.latest bit (some action)⟩) := by
  obtain ⟨slot, seed, latest⟩ := run
  cases slot with
  | none => exact .inl ⟨by cases succeeds <;> rfl, rfl⟩
  | some current =>
      obtain ⟨now, keep, applied, bits⟩ := apply_bits current bit action
      refine .inr ⟨current, now, keep, rfl, bits, ?_, ?_⟩
      · simp [WordRun.operation, writeBit, applied]
      · cases succeeds with
        | false => exact .inl (by simp [WordRun.step, WordRun.operation, writeBit, applied])
        | true => exact .inr (by simp [WordRun.step, WordRun.operation, writeBit, applied])

theorem Faithful.beat (faithful : Faithful owned run) (steerable : Bool)
    (read : Except String CommandWord) :
    Faithful owned (run.step (.beat steerable read : WordStep owned)) ∧
      ∀ word, (run.operation (.beat steerable read : WordStep owned)).written = some word →
        WordLaw run (.beat steerable read : WordStep owned) word := by
  rcases run.beat_cases steerable read with
    ⟨next, silent⟩ | ⟨current, slot, next, writes⟩ | ⟨seed, next, writes⟩
  · refine ⟨next ▸ ⟨by simp, faithful.ownedOnly⟩, ?_⟩
    intro word written
    exact absurd (silent.symm.trans written) (by simp)
  · refine ⟨next.symm ▸ faithful, ?_⟩
    intro word written
    obtain rfl := Option.some.inj (writes.symm.trans written)
    refine ⟨?_, by simp, ?_⟩
    · intro i _
      rw [next]
      exact faithful.asserts current slot i
    · intro i pulse _
      exact faithful.pulse_off slot pulse
  · refine ⟨next ▸ ⟨?_, by simp⟩, ?_⟩
    · intro word slot
      rw [← Option.some.inj slot]
      exact asserts_seeded seed
    · intro word written
      obtain rfl := Option.some.inj (writes.symm.trans written)
      refine ⟨?_, by simp, ?_⟩
      · intro i _
        rw [next]
        exact asserts_seeded seed i
      · intro i pulse _
        rw [getLsbD_masked, faithful.ownedOnly i (by rw [pulse]; simp), Bool.not_true,
          Bool.and_false]

theorem Faithful.kept (faithful : Faithful owned run) {current now keep : CommandWord}
    (slot : run.slot = some current) {bit : Fin 32} (isOwned : owned.getLsbD bit = true)
    {action : BitAction} (bits : AppliesTo current bit action now keep) :
    Faithful owned
      ⟨some keep, run.seed, Function.update run.latest bit (some action)⟩ := by
  refine ⟨?_, ?_⟩
  · intro word kept i
    rw [← Option.some.inj kept, Asserts, (bits i).2]
    by_cases own : bit = i
    · subst own
      simp [isOwned]
    · simp only [if_neg own, Function.update_of_ne (Ne.symm own)]
      exact faithful.asserts current slot i
  · intro i commanded
    by_cases own : bit = i
    · exact own ▸ isOwned
    · exact faithful.ownedOnly i
        (by simpa only [Function.update_of_ne (Ne.symm own)] using commanded)

theorem Faithful.command (faithful : Faithful owned run) (bit : Fin 32)
    (isOwned : owned.getLsbD bit = true) (action : BitAction) (succeeds : Bool) :
    Faithful owned (run.step (.command bit isOwned action succeeds)) ∧
      ∀ word, (run.operation (.command bit isOwned action succeeds)).written = some word →
        WordLaw run (.command bit isOwned action succeeds) word := by
  rcases run.command_cases bit isOwned action succeeds with
    ⟨next, silent⟩ | ⟨current, now, keep, slot, bits, writes, next⟩
  · refine ⟨next.symm ▸ faithful, ?_⟩
    intro word written
    exact absurd (silent.symm.trans written) (by simp)
  · refine ⟨?_, ?_⟩
    · rcases next with same | stored
      · exact same.symm ▸ faithful
      · exact stored ▸ faithful.kept slot isOwned bits
    · intro word written
      obtain rfl := Option.some.inj (writes.symm.trans written)
      refine ⟨?_, ?_, ?_⟩
      · intro i other
        have apart : bit ≠ i := fun own => other (congrArg some own)
        have untouched : Asserts owned run now i := by
          rw [Asserts, (bits i).1, if_neg apart]
          exact faithful.asserts current slot i
        rcases next with same | stored
        · rw [same]
          exact untouched
        · simpa only [stored, Asserts, Function.update_of_ne (Ne.symm apart)] using untouched
      · rintro pulsed _ _ ⟨⟩
        rw [(bits bit).1]
        simp
      · intro i pulse other
        have apart : bit ≠ i := fun own => other (congrArg some own)
        rw [(bits i).1, if_neg apart]
        exact faithful.pulse_off slot pulse

theorem Faithful.step (run : WordRun) (step : WordStep owned) (faithful : Faithful owned run) :
    Faithful owned (run.step step) ∧
      ∀ word, (run.operation step).written = some word → WordLaw run step word := by
  cases step with
  | beat steerable read => exact faithful.beat steerable read
  | command bit isOwned action succeeds => exact faithful.command bit isOwned action succeeds

/-- Whatever beats and commands one heartbeat meets, every word that is written asserts only what
was commanded. -/
theorem word_asserts_only_commands (owned : CommandWord) (steps : List (WordStep owned)) :
    Along WordRun.step (fun run step => ∀ word, (run.operation step).written = some word →
      WordLaw run step word) .start steps := by
  have empty : Faithful owned .start := ⟨by simp [WordRun.start], by simp [WordRun.start]⟩
  refine Along.of_invariant (Faithful owned) ?_ ?_ empty (along_of_forall (fun _ _ => trivial) _ _)
  · intro run step faithful _
    exact (Faithful.step run step faithful).1
  · intro run step faithful _
    exact (Faithful.step run step faithful).2

end OneHeartbeat

/-! Stops and restarts -/

inductive TaskStep where
  | spawn (owned : CommandWord)
  | cancel
  | beat (steerable : Bool) (read : Except String CommandWord)
  | command (bit : Fin 32) (action : BitAction) (succeeds : Bool)

/-- The slot, which outlives the heartbeats, with the bits owned by the one that runs. `stopped`
is set by a stop and holds until a running heartbeat sees a word written. -/
structure TaskRun where
  slot : Slot
  running : Option CommandWord
  stopped : Bool

namespace TaskRun

def start : TaskRun := ⟨none, none, false⟩

def operation (run : TaskRun) : TaskStep → Operation
  | .spawn _ => ⟨run.slot, none⟩
  | .cancel => ⟨run.slot, none⟩
  | .beat steerable read =>
      match run.running with
      | none => ⟨run.slot, none⟩
      | some owned => Sunspec.beat owned run.slot steerable read
  | .command bit action succeeds => writeBit run.slot bit action succeeds

/-- The reconcile loop joins the old tasks before it spawns new ones, so a word never has two
heartbeats. -/
def runningAfter (run : TaskRun) : TaskStep → Option CommandWord
  | .spawn owned => some (run.running.getD owned)
  | .cancel => none
  | _ => run.running

def isStop (run : TaskRun) : TaskStep → Bool
  | .cancel => run.running.isSome
  | .beat steerable _ => run.running.isSome && !steerable
  | _ => false

def step (run : TaskRun) (step : TaskStep) : TaskRun :=
  let seen := (run.operation step).written.isSome && run.running.isSome
  { slot := (run.operation step).slot
    running := run.runningAfter step
    stopped := run.isStop step || (run.stopped && !seen) }

end TaskRun

def Clear (mask word : CommandWord) : Prop :=
  ∀ i : Fin 32, mask.getLsbD i = true → word.getLsbD i = false

instance (mask word : CommandWord) : Decidable (Clear mask word) :=
  inferInstanceAs (Decidable (∀ _ : Fin 32, _))

/-- A spawn finds no word with a bit on that it owns, and until a word follows a stop no command
to turn an owned bit on finds one. -/
def NothingKept (run : TaskRun) : TaskStep → Prop
  | .spawn owned => run.running = none → ∀ word ∈ run.slot, Clear owned word
  | .command bit action _ =>
      run.stopped = true → action ≠ .clear → ∀ owned ∈ run.running,
        owned.getLsbD bit = true → run.slot = none
  | _ => True

-- Left to itself instance search decides these by trying every word there is.
instance (run : TaskRun) : ∀ step, Decidable (NothingKept run step)
  | .spawn owned =>
      haveI : Decidable (∀ word ∈ run.slot, Clear owned word) := Option.decidableForallMem _
      inferInstanceAs (Decidable (run.running = none → ∀ word ∈ run.slot, Clear owned word))
  | .command bit action _ =>
      haveI : Decidable (∀ owned ∈ run.running, owned.getLsbD bit = true → run.slot = none) :=
        Option.decidableForallMem _
      inferInstanceAs (Decidable (run.stopped = true → action ≠ .clear →
        ∀ owned ∈ run.running, owned.getLsbD bit = true → run.slot = none))
  | .cancel => .isTrue trivial
  | .beat _ _ => .isTrue trivial

def RestartsClear (run : TaskRun) (step : TaskStep) : Prop :=
  run.stopped = true → ∀ word ∈ (run.operation step).written, ∀ owned ∈ run.running,
    Clear owned word

def KeptClear (run : TaskRun) : Prop :=
  run.stopped = true → ∀ owned ∈ run.running, ∀ word ∈ run.slot, Clear owned word

theorem beat_silent (owned : CommandWord) (slot : Slot) (steerable : Bool)
    (read : Except String CommandWord) (silent : (beat owned slot steerable read).written = none) :
    (beat owned slot steerable read).slot = none := by
  cases steerable with
  | false => rfl
  | true =>
      cases slot with
      | some word => simp [beat] at silent
      | none =>
          cases read with
          | error message => rfl
          | ok seed => simp [beat] at silent

theorem beat_clear {owned : CommandWord} {slot : Slot} {steerable : Bool}
    {read : Except String CommandWord} (kept : ∀ word ∈ slot, Clear owned word) :
    ∀ word ∈ (beat owned slot steerable read).written, Clear owned word := by
  cases steerable with
  | false => simp [beat]
  | true =>
      cases slot with
      | some current => simpa [beat] using kept
      | none =>
          cases read with
          | error message => simp [beat]
          | ok seed =>
              intro word written i isOwned
              simp only [beat, Bool.not_true, Bool.false_eq_true, if_false,
                Option.mem_some_iff] at written
              rw [← written, getLsbD_masked, isOwned, Bool.not_true, Bool.and_false]

theorem writeBit_silent (slot : Slot) (bit : Fin 32) (action : BitAction) (succeeds : Bool)
    (silent : (writeBit slot bit action succeeds).written = none) :
    (writeBit slot bit action succeeds).slot = none := by
  cases slot with
  | none => rfl
  | some word =>
      obtain ⟨now, keep, applied, _⟩ := apply_bits word bit action
      simp [writeBit, applied] at silent

theorem writeBit_clear {owned : CommandWord} {slot : Slot} {bit : Fin 32} {action : BitAction}
    {succeeds : Bool} (kept : ∀ word ∈ slot, Clear owned word)
    (harmless : action ≠ .clear → owned.getLsbD bit = true → slot = none) :
    ∀ word ∈ (writeBit slot bit action succeeds).written, Clear owned word := by
  cases slot with
  | none => simp [writeBit, apply]
  | some current =>
      intro word written i isOwned
      obtain ⟨now, keep, applied, bits⟩ := apply_bits current bit action
      simp only [writeBit, applied, Option.mem_some_iff] at written
      rw [← written, (bits i).1]
      by_cases own : bit = i
      · have cleared : action = .clear := by
          by_contra latches
          exact absurd (harmless latches (own ▸ isOwned)) (by simp)
        simp [own, cleared]
      · rw [if_neg own]
        exact kept current rfl i isOwned

theorem KeptClear.restartsClear {run : TaskRun} {step : TaskStep} (kept : KeptClear run)
    (nothing : NothingKept run step) : RestartsClear run step := by
  intro stopped word written owned running
  cases step with
  | spawn _ => simp [TaskRun.operation] at written
  | cancel => simp [TaskRun.operation] at written
  | beat steerable read =>
      simp only [TaskRun.operation, Option.mem_def.mp running] at written
      exact beat_clear (kept stopped owned running) word written
  | command bit action succeeds =>
      refine writeBit_clear (kept stopped owned running) ?_ word written
      intro latches isOwned
      exact nothing stopped latches owned running isOwned

/-- Under a running heartbeat a word that is written ends the stop, and where none is written
nothing is kept. -/
theorem TaskRun.forgotten {run : TaskRun} {step : TaskStep}
    (runs : run.running.isSome = true)
    (silent : (run.operation step).written = none → (run.operation step).slot = none)
    (stops : run.isStop step = true → (run.operation step).written = none)
    (stopped : (run.step step).stopped = true) : (run.step step).slot = none := by
  by_cases unwritten : (run.operation step).written = none
  · exact silent unwritten
  · have notStop : run.isStop step = false := by
      rw [Bool.eq_false_iff]
      exact fun stop => unwritten (stops stop)
    have seen := Option.isSome_iff_ne_none.mpr unwritten
    simp [TaskRun.step, notStop, seen, runs] at stopped

theorem KeptClear.step {run : TaskRun} {step : TaskStep} (kept : KeptClear run)
    (nothing : NothingKept run step) : KeptClear (run.step step) := by
  intro stopped owned running word slot
  cases step with
  | spawn fresh =>
      cases runs : run.running with
      | none =>
          simp only [TaskRun.step, TaskRun.runningAfter, runs, Option.getD_none,
            Option.mem_some_iff] at running
          exact running ▸ nothing runs word slot
      | some current =>
          simp only [TaskRun.step, TaskRun.runningAfter, runs, Option.getD_some,
            Option.mem_some_iff] at running
          have before : run.stopped = true := by
            simpa [TaskRun.step, TaskRun.isStop, TaskRun.operation] using stopped
          exact kept before owned (running ▸ runs) word slot
  | cancel => simp [TaskRun.step, TaskRun.runningAfter] at running
  | beat steerable read =>
      have runs : run.running = some owned := running
      have empty := TaskRun.forgotten (by rw [runs]; rfl) ?_ ?_ stopped
      · exact absurd slot (by simp [empty])
      · simp only [TaskRun.operation, runs]
        exact beat_silent owned run.slot steerable read
      · intro stop
        have unsteerable : steerable = false := by simpa [TaskRun.isStop, runs] using stop
        simp only [TaskRun.operation, runs, unsteerable]
        rfl
  | command bit action succeeds =>
      have runs : run.running = some owned := running
      have empty := TaskRun.forgotten (by rw [runs]; rfl) ?_ ?_ stopped
      · exact absurd slot (by simp [empty])
      · exact writeBit_silent run.slot bit action succeeds
      · simp [TaskRun.isStop]

/-- Over every run of spawns, cancellations, beats and commands whose steps find nothing kept, no
heartbeat resumes an enabled device after a stop. -/
theorem restarts_clear (steps : List TaskStep)
    (nothing : Along TaskRun.step NothingKept .start steps) :
    Along TaskRun.step RestartsClear .start steps := by
  refine Along.of_invariant KeptClear ?_ ?_ (by simp [KeptClear, TaskRun.start]) nothing
  · intro run step kept holds
    exact kept.step holds
  · intro run step kept holds
    exact kept.restartsClear holds

/-! Bit 0 is enabled and then disabled, or not, before a reconcile respawns the heartbeat. -/

def enabled : List TaskStep :=
  [.spawn 1, .beat true (.ok 0), .command 0 .set true]

def respawned : List TaskStep :=
  [.cancel, .spawn 1, .beat true (.ok 0)]

theorem restarts_clear_after_disable :
    Along TaskRun.step RestartsClear .start (enabled ++ .command 0 .clear true :: respawned) :=
  restarts_clear _ (by decide +kernel)

/-- The cancelled heartbeat left the enabled word in its slot, and the respawned one asserts it. -/
theorem restart_resumes_enabled :
    ¬∀ steps : List TaskStep, Along TaskRun.step RestartsClear .start steps := by
  intro claimed
  have resumes := claimed (enabled ++ respawned)
  simp only [enabled, respawned, List.cons_append, List.nil_append, Along] at resumes
  obtain ⟨-, -, -, -, -, first, -⟩ := resumes
  have off := first rfl 1 rfl 1 rfl 0 (by decide)
  exact absurd off (by decide)

end EmsGateway.Sunspec
