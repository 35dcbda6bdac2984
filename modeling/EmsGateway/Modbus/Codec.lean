import EmsGateway.Modbus.CodecCore
import EmsGateway.Library.Words
import EmsGateway.Library.Outcomes

/-!
The Modbus codec loses nothing on its range. Each integer type is a two's complement or unsigned
word cut into registers and put together again (`Library.Words`); the encoder's saturating casts
never saturate, because the range test has already turned away every value they would change.
-/

namespace EmsGateway.Modbus

open EmsGateway.Library

def WordOrder.arrange (order : WordOrder) (words : List Register) : List Register :=
  match order with
  | .highLow => words
  | .lowHigh => words.reverse

@[simp] theorem WordOrder.arrange_arrange (order : WordOrder) (words : List Register) :
    order.arrange (order.arrange words) = words := by
  cases order with
  | highLow => rfl
  | lowHigh => exact List.reverse_reverse words

@[simp] theorem WordOrder.length_arrange (order : WordOrder) (words : List Register) :
    (order.arrange words).length = words.length := by
  cases order with
  | highLow => rfl
  | lowHigh => exact List.length_reverse

/-! Words of two and of four registers -/

theorem decodeUint32_eq {words : List Register} (length : words.length = 2) (order : WordOrder) :
    decodeUint32 words order = some (joinWords 32 (order.arrange words)) := by
  obtain ⟨first, second, rfl⟩ := List.length_eq_two.mp length
  cases order with
  | highLow => simp [decodeUint32, WordOrder.arrange, joinWords, shiftIn]
  | lowHigh => simp [decodeUint32, WordOrder.arrange, joinWords, shiftIn]

theorem encodeUint32_eq (value : BitVec 32) (order : WordOrder) :
    encodeUint32 value order = order.arrange (splitWords 16 2 value) := by
  cases order with
  | highLow => rfl
  | lowHigh => rfl

theorem decodeInt64_eq {words : List Register} (length : words.length = 4) (order : WordOrder) :
    decodeInt64 words order = some (joinWords 64 (order.arrange words)).toInt := by
  match words, length with
  | [a, b, c, d], _ =>
      cases order with
      | highLow => rfl
      | lowHigh => rfl

theorem encodeInt64_eq (raw : BitVec 64) (order : WordOrder) :
    encodeInt64 raw order = order.arrange (splitWords 16 4 raw) := by
  have cut : splitWords 16 4 raw = [(raw >>> 48).setWidth 16, (raw >>> 32).setWidth 16,
      (raw >>> 16).setWidth 16, raw.setWidth 16] := by
    simp [splitWords, ← BitVec.shiftRight_add]
  rw [cut]
  cases order with
  | highLow => rfl
  | lowHigh => rfl

theorem decodeUint32_encodeUint32 (value : BitVec 32) (order : WordOrder) :
    decodeUint32 (encodeUint32 value order) order = some value := by
  rw [encodeUint32_eq, decodeUint32_eq (by simp), WordOrder.arrange_arrange,
    joinWords_splitWords value.isLt]

theorem decodeInt64_encodeInt64 (raw : BitVec 64) (order : WordOrder) :
    decodeInt64 (encodeInt64 raw order) order = some raw.toInt := by
  rw [encodeInt64_eq, decodeInt64_eq (by simp), WordOrder.arrange_arrange,
    joinWords_splitWords raw.isLt]

theorem encodeUint32_joinWords {words : List Register} (length : words.length = 2)
    (order : WordOrder) : encodeUint32 (joinWords 32 (order.arrange words)) order = words := by
  rw [encodeUint32_eq, splitWords_joinWords (by simpa using length) (by decide),
    WordOrder.arrange_arrange]

theorem encodeInt64_joinWords {words : List Register} (length : words.length = 4)
    (order : WordOrder) : encodeInt64 (joinWords 64 (order.arrange words)) order = words := by
  rw [encodeInt64_eq, splitWords_joinWords (by simpa using length) (by decide),
    WordOrder.arrange_arrange]

/-! Casts -/

theorem asSigned_toInt {width : ℕ} (value : BitVec width) :
    asSigned width value.toInt = value := by
  have low := BitVec.le_toInt value
  have high := BitVec.toInt_lt (x := value)
  rw [asSigned, min_eq_left (by omega), max_eq_right low, BitVec.ofInt_toInt]

theorem toInt_asSigned {width : ℕ} (positive : 0 < width) {value : ℤ}
    (low : -2 ^ (width - 1) ≤ value) (high : value < 2 ^ (width - 1)) :
    (asSigned width value).toInt = value := by
  rw [asSigned, min_eq_left (by omega), max_eq_right low]
  exact BitVec.toInt_ofInt_eq_self positive low high

theorem asUnsigned_toNat {width : ℕ} (value : BitVec width) :
    asUnsigned width value.toNat = value := by
  have high : (value.toNat : ℤ) < 2 ^ width := by exact_mod_cast value.isLt
  rw [asUnsigned, min_eq_left (by omega), max_eq_right (by omega), BitVec.ofInt_natCast,
    BitVec.ofNat_toNat, BitVec.setWidth_eq]

theorem toNat_asUnsigned {width : ℕ} {value : ℤ} (low : 0 ≤ value) (high : value < 2 ^ width) :
    ((asUnsigned width value).toNat : ℤ) = value := by
  rw [asUnsigned, min_eq_left (by omega), max_eq_right low, BitVec.toNat_ofInt]
  push_cast
  rw [Int.emod_eq_of_lt low high]
  exact Int.toNat_of_nonneg low

/-! The integer types -/

def integerRange (dataType : ModbusDataType) : Set ℤ :=
  match dataType with
  | .uint16 => Set.Ico 0 (2 ^ 16)
  | .int16 => Set.Ico (-2 ^ 15) (2 ^ 15)
  | .int32 => Set.Ico (-2 ^ 31) (2 ^ 31)
  | .uint32 => Set.Ico 0 (2 ^ 32)
  | .int64 => Set.Ico (-2 ^ 63) (2 ^ 63)
  | .float32 => ∅

theorem inRange_iff {raw min max : ℚ} {low high : ℤ} (lowest : min = low) (end' : max = high) :
    inRange raw min max = true ↔ roundHalfAway raw ∈ Set.Ico low high := by
  rw [inRange, decide_eq_true_eq, lowest, end', Int.cast_le, Int.cast_lt, Set.mem_Ico]

section Integer

variable {dataType : ModbusDataType} (integer : dataType ≠ .float32) (order : WordOrder)

include integer

theorem fits_iff (raw : ℚ) :
    fits raw dataType = true ↔ roundHalfAway raw ∈ integerRange dataType := by
  cases dataType with
  | uint16 => exact inRange_iff (by norm_num) (by norm_num)
  | int16 => exact inRange_iff (by norm_num) (by norm_num)
  | int32 => exact inRange_iff (by norm_num) (by norm_num)
  | uint32 => exact inRange_iff (by norm_num) (by norm_num)
  | int64 => exact inRange_iff (by norm_num) (by norm_num)
  | float32 => exact absurd rfl integer

theorem length_encodeFinite (raw : ℚ) :
    (encodeFinite raw dataType order).length = dataType.registerCount := by
  cases dataType with
  | uint16 => rfl
  | int16 => rfl
  | int32 => simp [encodeFinite, encodeInt32, encodeUint32_eq, ModbusDataType.registerCount]
  | uint32 => simp [encodeFinite, encodeUint32_eq, ModbusDataType.registerCount]
  | int64 => simp [encodeFinite, encodeInt64_eq, ModbusDataType.registerCount]
  | float32 => exact absurd rfl integer

theorem decodeRaw_encodeFinite {raw : ℚ} (inside : roundHalfAway raw ∈ integerRange dataType) :
    decodeRaw (encodeFinite raw dataType order) dataType order =
      some (.finite (roundHalfAway raw)) := by
  cases dataType with
  | uint16 =>
      obtain ⟨low, high⟩ := inside
      have exact : ((asUnsigned 16 (roundHalfAway raw)).toNat : ℤ) = roundHalfAway raw :=
        toNat_asUnsigned low high
      simp only [encodeFinite, decodeRaw, List.head?_cons, Option.map_some]
      rw [← Int.cast_natCast, exact]
  | int16 =>
      obtain ⟨low, high⟩ := inside
      have exact : (asSigned 16 (roundHalfAway raw)).toInt = roundHalfAway raw :=
        toInt_asSigned (by decide) low high
      simp only [encodeFinite, decodeRaw, List.head?_cons, Option.map_some]
      rw [exact]
  | int32 =>
      obtain ⟨low, high⟩ := inside
      have exact : (asSigned 32 (roundHalfAway raw)).toInt = roundHalfAway raw :=
        toInt_asSigned (by decide) low high
      simp only [encodeFinite, decodeRaw, decodeInt32, encodeInt32, decodeUint32_encodeUint32,
        Option.map_some]
      rw [exact]
  | uint32 =>
      obtain ⟨low, high⟩ := inside
      have exact : ((asUnsigned 32 (roundHalfAway raw)).toNat : ℤ) = roundHalfAway raw :=
        toNat_asUnsigned low high
      simp only [encodeFinite, decodeRaw, decodeUint32_encodeUint32, Option.map_some]
      rw [← Int.cast_natCast, exact]
  | int64 =>
      obtain ⟨low, high⟩ := inside
      have exact : (asSigned 64 (roundHalfAway raw)).toInt = roundHalfAway raw :=
        toInt_asSigned (by decide) low high
      simp only [encodeFinite, decodeRaw, decodeInt64_encodeInt64, Option.map_some]
      rw [exact]
  | float32 => exact absurd rfl integer

theorem decodeRaw_of_length {words : List Register}
    (length : words.length = dataType.registerCount) :
    ∃ value ∈ integerRange dataType, decodeRaw words dataType order = some (.finite value) ∧
      encodeFinite value dataType order = words := by
  cases dataType with
  | uint16 =>
      obtain ⟨word, rfl⟩ := List.length_eq_one_iff.mp length
      have high : (word.toNat : ℤ) < 2 ^ 16 := by exact_mod_cast word.isLt
      refine ⟨word.toNat, ⟨by omega, high⟩, by simp [decodeRaw], ?_⟩
      rw [encodeFinite, roundHalfAway_intCast, asUnsigned_toNat]
  | int16 =>
      obtain ⟨word, rfl⟩ := List.length_eq_one_iff.mp length
      refine ⟨word.toInt, ⟨BitVec.le_toInt word, BitVec.toInt_lt⟩, by simp [decodeRaw], ?_⟩
      rw [encodeFinite, roundHalfAway_intCast, asSigned_toInt]
  | int32 =>
      refine ⟨(joinWords 32 (order.arrange words)).toInt,
        ⟨BitVec.le_toInt _, BitVec.toInt_lt⟩, ?_, ?_⟩
      · simp only [decodeRaw, decodeInt32, decodeUint32_eq length, Option.map_some]
      · rw [encodeFinite, roundHalfAway_intCast, asSigned_toInt, encodeInt32,
          encodeUint32_joinWords length]
  | uint32 =>
      have high : ((joinWords 32 (order.arrange words)).toNat : ℤ) < 2 ^ 32 := by
        exact_mod_cast (joinWords 32 (order.arrange words)).isLt
      refine ⟨(joinWords 32 (order.arrange words)).toNat, ⟨by omega, high⟩, ?_, ?_⟩
      · simp only [decodeRaw, decodeUint32_eq length, Option.map_some, Int.cast_natCast]
      · rw [encodeFinite, roundHalfAway_intCast, asUnsigned_toNat,
          encodeUint32_joinWords length]
  | int64 =>
      refine ⟨(joinWords 64 (order.arrange words)).toInt,
        ⟨BitVec.le_toInt _, BitVec.toInt_lt⟩, ?_, ?_⟩
      · simp only [decodeRaw, decodeInt64_eq length, Option.map_some]
      · rw [encodeFinite, roundHalfAway_intCast, asSigned_toInt, encodeInt64_joinWords length]
  | float32 => exact absurd rfl integer

theorem encodeFinite_round (raw : ℚ) :
    encodeFinite (roundHalfAway raw : ℤ) dataType order = encodeFinite raw dataType order := by
  cases dataType with
  | float32 => exact absurd rfl integer
  | _ => simp only [encodeFinite, roundHalfAway_intCast]

theorem encodeRaw_eq_ok {raw : ℚ} {words : List Register}
    (encoded : encodeRaw (.finite raw) dataType order = .ok words) :
    roundHalfAway raw ∈ integerRange dataType ∧ encodeFinite raw dataType order = words := by
  unfold encodeRaw at encoded
  dsimp only at encoded
  split at encoded
  · rename_i inside
    exact ⟨(fits_iff integer raw).mp inside, Except.ok.inj encoded⟩
  · exact absurd encoded (by simp)

theorem encodeRaw_of_inside {raw : ℚ} (inside : roundHalfAway raw ∈ integerRange dataType) :
    encodeRaw (.finite raw) dataType order = .ok (encodeFinite raw dataType order) := by
  have accepted := (fits_iff integer raw).mpr inside
  simp [encodeRaw, accepted]

end Integer

/-! The setpoint writes -/

theorem writeSetpoint_eq_ok {binding : ModbusTcpBinding} {value : ℚ} {request : WriteRequest}
    (written : writeSetpoint binding value = .ok request) :
    encodeRaw (toRaw value binding.scale binding.offset) binding.dataType binding.wordOrder =
      .ok request.words := by
  unfold writeSetpoint at written
  obtain ⟨function, _, written⟩ := bind_ok written
  obtain ⟨words, encoded, written⟩ := bind_ok written
  obtain ⟨unit, _, written⟩ := bind_ok written
  have same : (⟨unit, binding.address, words, function⟩ : WriteRequest) = request :=
    Except.ok.inj written
  rw [encoded, ← same]

/-- What a setpoint write puts in the registers reads back within half a unit of the scale. -/
theorem abs_readBack_sub {binding : ModbusTcpBinding} (integer : binding.dataType ≠ .float32)
    (nonzero : binding.scale ≠ 0) {value : ℚ} {request : WriteRequest}
    (written : writeSetpoint binding value = .ok request) :
    ∃ raw, decodeRaw request.words binding.dataType binding.wordOrder = some (.finite raw) ∧
      |applyScaleOffset raw binding.scale binding.offset - value| ≤ |binding.scale| / 2 := by
  have encoded := writeSetpoint_eq_ok written
  rw [toRaw, if_neg nonzero] at encoded
  obtain ⟨inside, same⟩ := encodeRaw_eq_ok integer _ encoded
  rw [← same]
  refine ⟨_, decodeRaw_encodeFinite integer _ inside, ?_⟩
  have units := abs_roundHalfAway_div_mul_sub nonzero (value - binding.offset)
  rwa [applyScaleOffset, ← sub_sub_eq_add_sub]

theorem codec_lossless {dataType : ModbusDataType} (integer : dataType ≠ .float32)
    (order : WordOrder) :
    (∀ x, (∃ words, encodeRaw (.finite x) dataType order = .ok words) ↔
      roundHalfAway x ∈ integerRange dataType) ∧
    (∀ x words, encodeRaw (.finite x) dataType order = .ok words →
      words.length = dataType.registerCount ∧
        decodeRaw words dataType order = some (.finite (roundHalfAway x))) ∧
    (∀ words, words.length = dataType.registerCount →
      ∃ value, decodeRaw words dataType order = some (.finite value) ∧
        encodeRaw (.finite value) dataType order = .ok words) ∧
    ∀ binding value request, binding.dataType = dataType → binding.wordOrder = order →
      binding.scale ≠ 0 → writeSetpoint binding value = .ok request →
        ∃ raw, decodeRaw request.words dataType order = some (.finite raw) ∧
          |applyScaleOffset raw binding.scale binding.offset - value| ≤ |binding.scale| / 2 := by
  refine ⟨?_, ?_, ?_, ?_⟩
  · intro x
    constructor
    · rintro ⟨words, encoded⟩
      exact (encodeRaw_eq_ok integer order encoded).1
    · intro inside
      exact ⟨_, encodeRaw_of_inside integer order inside⟩
  · intro x words encoded
    obtain ⟨inside, rfl⟩ := encodeRaw_eq_ok integer order encoded
    exact ⟨length_encodeFinite integer order x, decodeRaw_encodeFinite integer order inside⟩
  · intro words length
    obtain ⟨value, inside, decoded, encoded⟩ := decodeRaw_of_length integer order length
    refine ⟨value, decoded, ?_⟩
    rw [encodeRaw_of_inside integer order (by rwa [roundHalfAway_intCast]), encoded]
  · rintro binding value request rfl rfl nonzero written
    exact abs_readBack_sub integer nonzero written

theorem codec_lossless_int32 :
    ModbusDataType.int32 ≠ .float32 ∧
      ∃ raw, decodeRaw [0xFFDC#16, 0xFFFF#16] .int32 .lowHigh = some (.finite raw) ∧
        |applyScaleOffset raw (1 / 10) 5 - 71 / 50| ≤ |(1 / 10 : ℚ)| / 2 :=
  ⟨by decide, (codec_lossless (by decide) .lowHigh).2.2.2
    { unitId := some 1
      address := 100
      scale := 1 / 10
      offset := 5
      dataType := .int32
      wordOrder := .lowHigh }
    (71 / 50) ⟨1, 100, [0xFFDC#16, 0xFFFF#16], .multiple⟩ rfl rfl (by decide +kernel)
    (by decide +kernel)⟩

end EmsGateway.Modbus
