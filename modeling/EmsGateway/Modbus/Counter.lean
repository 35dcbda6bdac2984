import EmsGateway.Library.Runs
import EmsGateway.Library.Sequences
import EmsGateway.Modbus.CounterCore
import EmsGateway.Modbus.Float32

/-!
Can a heartbeat that is kept beat forever? Rounding keeps the order of the raw values, so what the
registers make of the counts only rises or only falls. All counts fit when the first and the last
do; no beat repeats its registers when no two neighbouring counts share them. Without rounding the
raw values lie at equal distances, and for an integer type the first and the last tell that too.
-/

namespace EmsGateway.Modbus

open EmsGateway.Library

/-! What a register type can tell apart -/

def rung (dataType : ModbusDataType) (raw : ℚ) : ℤ :=
  match dataType with
  | .float32 => f32Place raw
  | _ => roundHalfAway raw

def rungs (dataType : ModbusDataType) : Set ℤ :=
  match dataType with
  | .float32 => f32Places
  | _ => integerRange dataType

theorem rung_of_integer {dataType : ModbusDataType} (integer : dataType ≠ .float32) (raw : ℚ) :
    rung dataType raw = roundHalfAway raw := by
  cases dataType with
  | float32 => exact absurd rfl integer
  | _ => rfl

theorem rungs_of_integer {dataType : ModbusDataType} (integer : dataType ≠ .float32) :
    rungs dataType = integerRange dataType := by
  cases dataType with
  | float32 => exact absurd rfl integer
  | _ => rfl

theorem rungs_ordConnected (dataType : ModbusDataType) : (rungs dataType).OrdConnected := by
  cases dataType with
  | float32 => exact Set.ordConnected_Ioo
  | _ => exact Set.ordConnected_Ico

theorem rung_mono (dataType : ModbusDataType) : Monotone (rung dataType) := by
  intro x y le
  by_cases float : dataType = .float32
  · rw [float]
    exact f32Place_mono le
  · rw [rung_of_integer float, rung_of_integer float]
    exact roundHalfAway_mono le

theorem fits_iff_rung (dataType : ModbusDataType) (raw : ℚ) :
    fits raw dataType = true ↔ rung dataType raw ∈ rungs dataType := by
  by_cases float : dataType = .float32
  · rw [float, fits, decide_eq_true_eq]
    exact (f32Place_mem_iff raw).symm
  · rw [rung_of_integer float, rungs_of_integer float]
    exact fits_iff float raw

theorem encodeFinite_eq_iff {dataType : ModbusDataType} (order : WordOrder) {x y : ℚ}
    (left : fits x dataType = true) (right : fits y dataType = true) :
    encodeFinite x dataType order = encodeFinite y dataType order ↔
      rung dataType x = rung dataType y := by
  by_cases float : dataType = .float32
  · subst float
    rw [fits, decide_eq_true_eq] at left right
    refine Iff.trans ?_ (asF32Bits_eq_iff left right)
    constructor
    · intro same
      have decoded := congrArg (fun words => decodeUint32 words order) same
      simpa only [encodeFinite, decodeUint32_encodeUint32, Option.some.injEq] using decoded
    · intro same
      simp only [encodeFinite, same]
  · rw [rung_of_integer float, rung_of_integer float]
    constructor
    · intro same
      have decoded := decodeRaw_encodeFinite float order ((fits_iff float x).mp left)
      rw [same, decodeRaw_encodeFinite float order ((fits_iff float y).mp right)] at decoded
      simpa using decoded.symm
    · intro same
      rw [← encodeFinite_round float order x, same, encodeFinite_round float order y]

/-! Counts -/

section Counts

variable (binding : ModbusTcpBinding)

def rawCountF64 (count : ℕ) : F64 := toRawF64 count binding.scale binding.offset

def encodeCount (count : ℕ) : Except String (List Register) :=
  encodeRaw (rawCountF64 binding count) binding.dataType binding.wordOrder

/-- The raw value of a count, where none of its two roundings overflows. -/
def rawCount (count : ℕ) : ℚ :=
  binary64.nearest (binary64.nearest (count - binding.offset) / binding.scale)

def exactCount (count : ℕ) : ℚ := (count - binding.offset) / binding.scale

def countRung (count : ℕ) : ℤ := rung binding.dataType (rawCount binding count)

/-- Every count below the modulo can be written, and its successor, which after the last is 0, is
written in other registers. -/
def BeatsForever (modulo : ℕ) : Prop :=
  ∀ count < modulo, ∃ words next, encodeCount binding count = .ok words ∧
    encodeCount binding ((count + 1) % modulo) = .ok next ∧ words ≠ next

/-- The encoder's own test, which only a finite raw value passes. -/
def CountFits (count : ℕ) : Prop :=
  ∃ raw, rawCountF64 binding count = .finite raw ∧ fits raw binding.dataType = true

/-- The type does not round the two raw values to the same value. -/
def Apart (dataType : ModbusDataType) (x y : ℚ) : Prop :=
  match dataType with
  | .float32 => asF32Bits x ≠ asF32Bits y
  | _ => roundHalfAway x ≠ roundHalfAway y

def NeighboursApart (modulo : ℕ) : Prop :=
  ∀ count < modulo - 1, Apart binding.dataType (rawCount binding count)
    (rawCount binding (count + 1))

structure Countable (modulo : ℕ) : Prop where
  first : CountFits binding 0
  last : CountFits binding (modulo - 1)
  apart : NeighboursApart binding modulo

instance (count : ℕ) : Decidable (CountFits binding count) :=
  match counted : rawCountF64 binding count with
  | .finite raw =>
      decidable_of_iff (fits raw binding.dataType = true) (by simp [CountFits, counted])
  | .infinite _ => isFalse (by simp [CountFits, counted])
  | .nan => isFalse (by simp [CountFits, counted])

instance (dataType : ModbusDataType) (x y : ℚ) : Decidable (Apart dataType x y) :=
  match dataType with
  | .float32 => inferInstanceAs (Decidable (asF32Bits x ≠ asF32Bits y))
  | .int16 | .uint16 | .int32 | .uint32 | .int64 =>
      inferInstanceAs (Decidable (roundHalfAway x ≠ roundHalfAway y))

instance (modulo : ℕ) : Decidable (NeighboursApart binding modulo) :=
  inferInstanceAs (Decidable (∀ count < modulo - 1,
    Apart binding.dataType (rawCount binding count) (rawCount binding (count + 1))))

instance (modulo : ℕ) : Decidable (Countable binding modulo) :=
  decidable_of_iff (CountFits binding 0 ∧ CountFits binding (modulo - 1) ∧
      NeighboursApart binding modulo)
    ⟨fun ⟨first, last, apart⟩ => ⟨first, last, apart⟩,
      fun countable => ⟨countable.first, countable.last, countable.apart⟩⟩

variable {binding} {count modulo : ℕ}

theorem countFits_iff : CountFits binding count ↔ binding.scale ≠ 0 ∧
    |binary64.nearest (count - binding.offset)| < binary64.overflow ∧
      |rawCount binding count| < binary64.overflow ∧
      fits (rawCount binding count) binding.dataType = true := by
  simp only [CountFits, rawCountF64, toRawF64_eq_finite_iff]
  constructor
  · rintro ⟨raw, ⟨scaled, difference, quotient, rfl⟩, fitting⟩
    exact ⟨scaled, difference, quotient, fitting⟩
  · rintro ⟨scaled, difference, quotient, fitting⟩
    exact ⟨_, ⟨scaled, difference, quotient, rfl⟩, fitting⟩

theorem encodeCount_of_fits (fitting : CountFits binding count) : encodeCount binding count =
    .ok (encodeFinite (rawCount binding count) binding.dataType binding.wordOrder) := by
  obtain ⟨raw, counted, fitting⟩ := fitting
  obtain ⟨_, _, _, rfl⟩ := toRawF64_eq_finite_iff.mp counted
  rw [encodeCount, counted]
  exact if_pos fitting

theorem encodeCount_eq_ok {words : List Register}
    (encoded : encodeCount binding count = .ok words) : CountFits binding count ∧
      encodeFinite (rawCount binding count) binding.dataType binding.wordOrder = words := by
  have fitting : CountFits binding count := by
    unfold encodeCount encodeRaw at encoded
    split at encoded
    · rename_i raw counted
      split at encoded
      · rename_i fitting
        exact ⟨raw, counted, fitting⟩
      · exact absurd encoded (by simp)
    · exact absurd encoded (by simp)
  rw [encodeCount_of_fits fitting] at encoded
  exact ⟨fitting, Except.ok.inj encoded⟩

/-! Counts in their order -/

theorem difference_mono : Monotone fun count : ℕ =>
    binary64.nearest ((count : ℚ) - binding.offset) := by
  intro first second le
  apply BinaryFormat.nearest_mono
  have later : (first : ℚ) ≤ second := by exact_mod_cast le
  linarith

theorem div_directed {s : ℕ → ℚ} (rising : Monotone s) (scale : ℚ) :
    Monotone (fun count => s count / scale) ∨ Antitone (fun count => s count / scale) := by
  rcases le_total 0 scale with nonneg | nonpos
  · exact .inl fun _ _ le => div_le_div_of_nonneg_right (rising le) nonneg
  · exact .inr fun _ _ le => div_le_div_of_nonpos_of_le nonpos (rising le)

theorem rawCount_directed : Monotone (rawCount binding) ∨ Antitone (rawCount binding) :=
  (div_directed difference_mono binding.scale).imp BinaryFormat.nearest_mono.comp
    BinaryFormat.nearest_mono.comp_antitone

theorem countRung_directed : Monotone (countRung binding) ∨ Antitone (countRung binding) :=
  rawCount_directed.imp (rung_mono _).comp (rung_mono _).comp_antitone

theorem countFits_of_ends (first : CountFits binding 0) (last : CountFits binding (modulo - 1))
    (below : count ≤ modulo - 1) : CountFits binding count := by
  simp only [countFits_iff, abs_lt, fits_iff_rung] at first last ⊢
  obtain ⟨scaled, firstDifference, firstQuotient, firstRung⟩ := first
  obtain ⟨_, lastDifference, lastQuotient, lastRung⟩ := last
  exact ⟨scaled,
    mem_of_ends Set.ordConnected_Ioo (.inl difference_mono) firstDifference lastDifference below,
    mem_of_ends Set.ordConnected_Ioo rawCount_directed firstQuotient lastQuotient below,
    mem_of_ends (rungs_ordConnected _) countRung_directed firstRung lastRung below⟩

theorem apart_iff_rung {dataType : ModbusDataType} {x y : ℚ} (left : fits x dataType = true)
    (right : fits y dataType = true) : Apart dataType x y ↔ rung dataType x ≠ rung dataType y := by
  unfold Apart
  split
  · rw [fits, decide_eq_true_eq] at left right
    exact (asF32Bits_eq_iff left right).not
  · rename_i integer
    rw [rung_of_integer integer, rung_of_integer integer]

theorem neighboursApart_iff (first : CountFits binding 0)
    (last : CountFits binding (modulo - 1)) : NeighboursApart binding modulo ↔
      ∀ count < modulo - 1, countRung binding count ≠ countRung binding (count + 1) := by
  have fitting : ∀ count ≤ modulo - 1, fits (rawCount binding count) binding.dataType = true :=
    fun count below => (countFits_iff.mp (countFits_of_ends first last below)).2.2.2
  apply forall₂_congr
  intro count below
  exact apart_iff_rung (fitting count (by omega)) (fitting (count + 1) (by omega))

theorem beatsForever_iff (counts : 2 ≤ modulo) :
    BeatsForever binding modulo ↔ Countable binding modulo := by
  constructor
  · intro beats
    obtain ⟨start, _, encodedFirst, _⟩ := beats 0 (by omega)
    obtain ⟨final, _, encodedLast, _⟩ := beats (modulo - 1) (by omega)
    have first := (encodeCount_eq_ok encodedFirst).1
    have last := (encodeCount_eq_ok encodedLast).1
    refine ⟨first, last, (neighboursApart_iff first last).mpr ?_⟩
    intro count below same
    obtain ⟨words, next, encoded, following, different⟩ := beats count (by omega)
    rw [Nat.mod_eq_of_lt (by omega)] at following
    obtain ⟨fitting, rfl⟩ := encodeCount_eq_ok encoded
    obtain ⟨fittingNext, rfl⟩ := encodeCount_eq_ok following
    exact different ((encodeFinite_eq_iff _ (countFits_iff.mp fitting).2.2.2
      (countFits_iff.mp fittingNext).2.2.2).mpr same)
  · rintro ⟨first, last, neighbours⟩ count below
    have apart := (neighboursApart_iff first last).mp neighbours
    have fitting : ∀ k < modulo, CountFits binding k :=
      fun k inside => countFits_of_ends first last (by omega)
    have nextBelow : (count + 1) % modulo < modulo := Nat.mod_lt _ (by omega)
    refine ⟨_, _, encodeCount_of_fits (fitting count below),
      encodeCount_of_fits (fitting _ nextBelow), ?_⟩
    intro same
    have shared := (encodeFinite_eq_iff _ (countFits_iff.mp (fitting count below)).2.2.2
      (countFits_iff.mp (fitting _ nextBelow)).2.2.2).mp same
    change countRung binding count = countRung binding ((count + 1) % modulo) at shared
    by_cases wraps : count + 1 = modulo
    · -- from the last count back to the first, all the rungs in between have been climbed
      have far := le_abs_sub_of_apart countRung_directed apart
      have lastCount : count = modulo - 1 := by omega
      rw [wraps, Nat.mod_self, lastCount] at shared
      rw [shared, sub_self, abs_zero] at far
      omega
    · rw [Nat.mod_eq_of_lt (by omega)] at shared
      exact apart count (by omega) shared

/-! Counts without rounding -/

theorem exactCount_succ (count : ℕ) :
    exactCount binding (count + 1) = exactCount binding count + 1 / binding.scale := by
  unfold exactCount
  push_cast
  ring

theorem exactCount_directed : Monotone (exactCount binding) ∨ Antitone (exactCount binding) := by
  apply div_directed
  intro first second le
  have later : (first : ℚ) ≤ second := by exact_mod_cast le
  linarith

/-- For an integer type the first and the last count tell whether all neighbours are apart: steps of
a whole unit always are, and smaller ones move by at most one. -/
theorem integer_apart_iff (steps : ℕ) : (steps : ℤ) ≤
      |roundHalfAway (exactCount binding steps) - roundHalfAway (exactCount binding 0)| ↔
    ∀ count < steps, roundHalfAway (exactCount binding count) ≠
      roundHalfAway (exactCount binding (count + 1)) := by
  have rounds : Monotone (roundHalfAway : ℚ → ℤ) := fun _ _ le => roundHalfAway_mono le
  constructor
  · intro far
    by_cases near : |1 / binding.scale| < 1
    · apply apart_of_le_abs_sub (s := fun count => roundHalfAway (exactCount binding count)) ?_ far
      intro count
      apply abs_roundHalfAway_sub_le
      rwa [exactCount_succ, add_sub_cancel_left]
    · intro count _
      rw [exactCount_succ]
      rcases le_abs.mp (not_lt.mp near) with up | down
      · exact roundHalfAway_ne (by linarith)
      · exact (roundHalfAway_ne (by linarith)).symm
  · exact le_abs_sub_of_apart (s := fun count => roundHalfAway (exactCount binding count))
      (exactCount_directed.imp rounds.comp rounds.comp_antitone)

theorem neighboursApart_of_exact (counts : 2 ≤ modulo) (integer : binding.dataType ≠ .float32)
    (exact : ∀ count < modulo, rawCount binding count = exactCount binding count) :
    NeighboursApart binding modulo ↔ ((modulo - 1 : ℕ) : ℤ) ≤
      |roundHalfAway (exactCount binding (modulo - 1)) -
        roundHalfAway (exactCount binding 0)| := by
  rw [integer_apart_iff]
  apply forall₂_congr
  intro count below
  rw [exact count (by omega), exact (count + 1) (by omega)]
  unfold Apart
  split
  · contradiction
  · exact Iff.rfl

/-- Whole counts are exact. -/
theorem rawCount_of_whole (unit : binding.scale = 1) {offset : ℤ}
    (whole : binding.offset = offset) (small : |(count : ℤ) - offset| < 2 ^ 53) :
    rawCount binding count = exactCount binding count := by
  obtain ⟨_, _, _, raw⟩ := toRawF64_eq_finite_iff.mp (toRawF64_of_whole small)
  rw [Int.cast_natCast] at raw
  rw [rawCount, exactCount, unit, whole, raw, div_one]

end Counts

/-! The loop -/

theorem writeSetpointF64_eq_ok {binding : ModbusTcpBinding} {count : ℕ} {request : WriteRequest}
    (written : writeSetpointF64 binding count = .ok request) :
    encodeCount binding count = .ok request.words := by
  unfold writeSetpointF64 at written
  obtain ⟨function, _, written⟩ := bind_ok written
  obtain ⟨words, encoded, written⟩ := bind_ok written
  obtain ⟨unit, _, written⟩ := bind_ok written
  have same : (⟨unit, binding.address, words, function⟩ : WriteRequest) = request :=
    Except.ok.inj written
  rw [encodeCount, rawCountF64, encoded, ← same]

section Loop

variable {c : Counter} {feed : Feed}

theorem Feed.tick_cases (c : Counter) (feed : Feed) (tick : CounterTick) :
    feed.tick c tick = feed ∨ ∃ words, encodeCount c.binding feed.count = .ok words ∧
      feed.tick c tick = ⟨(feed.count + 1) % c.modulo, words :: feed.written⟩ := by
  unfold Feed.tick
  split
  · exact .inl rfl
  · split
    · exact .inl rfl
    · rename_i request written
      split
      · exact .inr ⟨request.words, writeSetpointF64_eq_ok written, rfl⟩
      · exact .inl rfl

/-- A count that cannot be written is never left. -/
theorem Feed.run_of_unwritable {message : String}
    (unwritable : encodeCount c.binding feed.count = .error message) (ticks : List CounterTick) :
    run (Feed.tick c) feed ticks = feed := by
  induction ticks with
  | nil => rfl
  | cons tick rest ih =>
      rcases feed.tick_cases c tick with same | ⟨words, encoded, _⟩
      · rw [run_cons, same, ih]
      · rw [unwritable] at encoded
        exact absurd encoded (by simp)

/-- The registers the device has last been given are those of the count before. -/
structure Beating (c : Counter) (feed : Feed) : Prop where
  below : feed.count < c.modulo
  changing : feed.written.IsChain (· ≠ ·)
  last : ∀ words ∈ feed.written.head?, ∃ count < c.modulo,
    (count + 1) % c.modulo = feed.count ∧ encodeCount c.binding count = .ok words

theorem beating_tick (beats : BeatsForever c.binding c.modulo) (feed : Feed) (tick : CounterTick)
    (beating : Beating c feed) : Beating c (feed.tick c tick) := by
  rcases feed.tick_cases c tick with same | ⟨words, encoded, same⟩
  · rwa [same]
  · rw [same]
    refine ⟨Nat.mod_lt _ (by have := beating.below; omega), ?_, ?_⟩
    · refine List.isChain_cons.mpr ⟨?_, beating.changing⟩
      intro earlier given
      obtain ⟨count, below, follows, encodedEarlier⟩ := beating.last earlier given
      obtain ⟨_, _, first, second, different⟩ := beats count below
      rw [follows, encoded] at second
      rw [encodedEarlier] at first
      rw [Except.ok.inj first, Except.ok.inj second]
      exact different.symm
    · intro given isGiven
      obtain rfl := Option.some.inj isGiven
      exact ⟨feed.count, beating.below, rfl, encoded⟩

theorem beating_run (beats : BeatsForever c.binding c.modulo) (counts : 2 ≤ c.modulo)
    (ticks : List CounterTick) : Beating c (run (Feed.tick c) .start ticks) := by
  have unconditional : Along (Feed.tick c) (fun _ _ => True) .start ticks :=
    along_of_forall (fun _ _ => trivial) _ _
  refine run_invariant (Beating c) (fun feed tick beating _ => beating_tick beats feed tick beating)
    ⟨?_, .nil, ?_⟩ unconditional
  · exact lt_of_lt_of_le Nat.zero_lt_two counts
  · intro words given
    exact absurd given (by simp [Feed.start])

/-- The link is up, the device is not locked out and the session carries every write out. -/
def CounterTick.Carries (tick : CounterTick) (deviceId : String) : Prop :=
  steerable tick deviceId = true ∧ ∀ request, tick.lands request = true

theorem Feed.tick_of_carries {tick : CounterTick} (carries : tick.Carries c.deviceId)
    {request : WriteRequest} (written : writeSetpointF64 c.binding feed.count = .ok request) :
    (feed.tick c tick).count = (feed.count + 1) % c.modulo := by
  unfold Feed.tick
  rw [if_neg (by rw [carries.1]; decide), written]
  dsimp only
  rw [if_pos (carries.2 request)]

theorem Feed.count_run_carried {ticks : List CounterTick}
    (carried : ∀ tick ∈ ticks, tick.Carries c.deviceId) (room : ticks.length < c.modulo)
    (writable : ∀ count < ticks.length, ∃ request, writeSetpointF64 c.binding count = .ok request) :
    (run (Feed.tick c) .start ticks).count = ticks.length := by
  induction ticks using List.reverseRecOn with
  | nil => rfl
  | append_singleton earlier tick ih =>
      rw [List.length_append, List.length_singleton] at room writable ⊢
      have before := ih (fun tick member => carried tick (List.mem_append_left _ member))
        (by omega) (fun count below => writable count (by omega))
      obtain ⟨request, written⟩ := writable earlier.length (by omega)
      rw [← before] at written
      rw [run_append, run_cons, run_nil,
        Feed.tick_of_carries (carried tick (by simp)) written, before, Nat.mod_eq_of_lt room]

/-- The feed counts up to the first count that cannot be written and stays there, however long the
device could be reached. -/
theorem Feed.sticks {ticks : List CounterTick}
    (carried : ∀ tick ∈ ticks, tick.Carries c.deviceId) (room : ticks.length < c.modulo)
    (writable : ∀ count < ticks.length, ∃ request, writeSetpointF64 c.binding count = .ok request)
    {message : String} (unwritable : encodeCount c.binding ticks.length = .error message)
    (later : List CounterTick) :
    run (Feed.tick c) .start (ticks ++ later) = run (Feed.tick c) .start ticks := by
  rw [← Feed.count_run_carried carried room writable] at unwritable
  rw [run_append, Feed.run_of_unwritable unwritable]

end Loop

theorem exists_binding_of_runnable {h : HeartbeatSource} (kept : runnable h = .ok ()) :
    2 ≤ h.counterModulo.val ∧ ∃ binding, h.binding = .modbusTcp binding := by
  unfold runnable at kept
  dsimp only at kept
  split at kept
  · exact absurd kept (by simp)
  · rename_i counts
    refine ⟨not_lt.mp counts, ?_⟩
    split at kept
    · exact absurd kept (by simp)
    · split at kept
      · rename_i binding modbus
        exact ⟨binding, modbus⟩
      · exact absurd kept (by simp)

/-- Of the heartbeats a spec keeps, those beat forever whose counts the register can tell apart; and
then no run of the loop comes to a count it cannot write, or gives the device the same registers
twice in a row. Where the raw values need no rounding, the first and the last of them tell whether
an integer type keeps the counts apart. -/
theorem kept_heartbeat_beats_iff (h : HeartbeatSource) (kept : runnable h = .ok ()) :
    ∃ binding, h.binding = .modbusTcp binding ∧
      (BeatsForever binding h.counterModulo ↔ Countable binding h.counterModulo) ∧
      (Countable binding h.counterModulo → ∀ (deviceId : String) (ticks : List CounterTick),
        (run (Feed.tick ⟨deviceId, binding, h.counterModulo⟩) .start ticks).count <
            h.counterModulo.val ∧
          (∃ words, encodeCount binding
            (run (Feed.tick ⟨deviceId, binding, h.counterModulo⟩) .start ticks).count =
              .ok words) ∧
          (run (Feed.tick ⟨deviceId, binding, h.counterModulo⟩) .start ticks).written.IsChain
            (· ≠ ·)) ∧
      (binding.dataType ≠ .float32 →
        (∀ count < h.counterModulo.val, rawCount binding count = exactCount binding count) →
        (NeighboursApart binding h.counterModulo ↔ ((h.counterModulo.val - 1 : ℕ) : ℤ) ≤
          |roundHalfAway (exactCount binding (h.counterModulo.val - 1)) -
            roundHalfAway (exactCount binding 0)|)) := by
  obtain ⟨counts, binding, modbus⟩ := exists_binding_of_runnable kept
  refine ⟨binding, modbus, beatsForever_iff counts, ?_, neighboursApart_of_exact counts⟩
  intro countable deviceId ticks
  have beats := (beatsForever_iff counts).mpr countable
  have beating := @beating_run ⟨deviceId, binding, h.counterModulo⟩ beats counts ticks
  obtain ⟨words, _, encoded, _⟩ := beats _ beating.below
  exact ⟨beating.below, ⟨words, encoded⟩, beating.changing⟩

/-! A counter in one register of the battery, unsigned or signed. -/

def emsHeartbeat (dataType : ModbusDataType) : ModbusTcpBinding where
  unitId := some ⟨100, by decide⟩
  address := 896
  scale := 1
  offset := 0
  dataType := dataType
  functionCode := some 6

def oneRegister (dataType : ModbusDataType) (modulo : Fin 65536) : HeartbeatSource :=
  ⟨modulo, .finite 1, .modbusTcp (emsHeartbeat dataType)⟩

theorem kept_heartbeat_beats_uint16 :
    runnable (oneRegister .uint16 256) = .ok () ∧ BeatsForever (emsHeartbeat .uint16) 256 := by
  have kept : runnable (oneRegister .uint16 256) = .ok () := by decide +kernel
  obtain ⟨binding, modbus, beats, _, ends⟩ := kept_heartbeat_beats_iff _ kept
  obtain rfl := HeartbeatBinding.modbusTcp.inj modbus
  have exact : ∀ count < 256,
      rawCount (emsHeartbeat .uint16) count = exactCount (emsHeartbeat .uint16) count :=
    fun count below => @rawCount_of_whole (emsHeartbeat .uint16) count rfl 0 rfl (by
      rw [sub_zero, Nat.abs_cast]
      omega)
  have apart := (ends (by decide) exact).mpr (by decide +kernel)
  exact ⟨kept, beats.mpr ⟨by decide +kernel, by decide +kernel, apart⟩⟩

/-- A signed register cannot hold the count 32768. -/
theorem kept_heartbeat_stuck_in_int16 :
    ¬∀ h : HeartbeatSource, runnable h = .ok () →
      ∀ binding, h.binding = .modbusTcp binding → BeatsForever binding h.counterModulo := by
  intro always
  obtain ⟨words, _, encoded, _⟩ :=
    always (oneRegister .int16 65535) (by decide +kernel) _ rfl 32768 (by decide)
  have unfit := (encodeCount_eq_ok encoded).1
  exact absurd unfit (by decide +kernel)

end EmsGateway.Modbus
