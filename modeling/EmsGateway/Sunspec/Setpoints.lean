import EmsGateway.Sunspec.PointsCore
import EmsGateway.Modbus.Codec

/-!
A written setpoint, read back. Writing and reading agree on the address, the type and the scale
factor, so what was encoded decodes within half a count; but the encoder takes the whole range of
the wire type, while the reader turns away the one pattern SunSpec reserves for "not implemented".
-/

namespace EmsGateway.Sunspec

open EmsGateway.Library EmsGateway.Modbus

/-! Registers after a write -/

theorem writeRegisters_eq_ok {device after : Device} {addr : Address} {words : List Register}
    (written : writeRegisters device addr words = .ok after) :
    inAddressSpace addr words.length = true ∧ after.models = device.models ∧
      ∀ a, after.registers a = (words[(a - addr).toNat]?).getD (device.registers a) := by
  unfold writeRegisters at written
  split at written
  · rename_i inside
    cases written
    exact ⟨inside, rfl, fun _ => rfl⟩
  · exact absurd written (by simp)

theorem readRegisters_of_written {device after : Device} {addr : Address} {words : List Register}
    (written : writeRegisters device addr words = .ok after) :
    readRegisters after addr words.length = .ok words := by
  obtain ⟨inside, _, registers⟩ := writeRegisters_eq_ok written
  have fits : addr.toNat + words.length ≤ 2 ^ 16 := of_decide_eq_true inside
  rw [readRegisters, if_pos inside]
  congr 1
  apply List.ext_getElem
  · simp
  · intro i left right
    have offset : (addr + BitVec.ofNat 16 i - addr).toNat = i := by
      rw [BitVec.add_comm, BitVec.add_sub_cancel, BitVec.toNat_ofNat]
      exact Nat.mod_eq_of_lt (by omega)
    rw [List.getElem_map, List.getElem_range, registers, offset, List.getElem?_eq_getElem right,
      Option.getD_some]

theorem registers_of_apart {device after : Device} {addr a : Address} {words : List Register}
    (written : writeRegisters device addr words = .ok after)
    (apart : words.length ≤ (a - addr).toNat) : after.registers a = device.registers a := by
  obtain ⟨_, _, registers⟩ := writeRegisters_eq_ok written
  rw [registers, List.getElem?_eq_none apart, Option.getD_none]

theorem read_eq_ok {device : Device} {addr : Address} {kind : PointType} {words : List Register} :
    read device addr kind = .ok words ↔
      readRegisters device addr kind.registerCount = .ok words ∧ words ≠ notImplemented kind := by
  unfold read
  cases answer : readRegisters device addr kind.registerCount with
  | error message => simp [bind, Except.bind]
  | ok found =>
      simp only [bind, Except.bind, Except.ok.injEq]
      split
      · rename_i reserved
        simp only [reserved, throw_eq_error, reduceCtorEq, ne_eq, false_iff, not_and, not_not]
        exact Eq.symm
      · rename_i implemented
        simp only [pure, Except.pure, Except.ok.injEq]
        constructor
        · rintro rfl
          exact ⟨rfl, implemented⟩
        · exact And.left

theorem read_sunssf {device : Device} {addr : Address} {words : List Register} :
    read device addr .sunssf = .ok words ↔
      device.registers addr ≠ sfNotImplemented ∧ words = [device.registers addr] := by
  have inside : inAddressSpace addr 1 = true := by
    have bound := addr.isLt
    simp only [inAddressSpace, decide_eq_true_eq]
    omega
  have single : readRegisters device addr PointType.sunssf.registerCount =
      .ok [device.registers addr] := by
    simp [readRegisters, PointType.registerCount, inside]
  rw [read_eq_ok, single, Except.ok.injEq]
  constructor
  · rintro ⟨rfl, implemented⟩
    exact ⟨by simpa [notImplemented, sfNotImplemented] using implemented, rfl⟩
  · rintro ⟨implemented, rfl⟩
    exact ⟨rfl, by simpa [notImplemented, sfNotImplemented] using implemented⟩

/-! The scale factor -/

def exponentAt (device : Device) (sfAddr : Option Address) : ℤ :=
  match sfAddr with
  | some addr => (device.registers addr).toInt
  | none => 0

/-- The decimal exponent a point is scaled by: its scale factor register, 0 when it has none. -/
def scaleFactor (device : Device) (b : SunspecBinding) (found : PointDef) : ℤ :=
  match address device.models b found with
  | .ok (_, sfAddr) => exponentAt device sfAddr
  | .error _ => 0

theorem scaled_eq_ok {device : Device} {sfAddr : Option Address} {raw scale : ℚ} :
    scaled device raw sfAddr = .ok scale ↔
      (∀ addr, sfAddr = some addr → device.registers addr ≠ sfNotImplemented) ∧
        scale = raw * 10 ^ exponentAt device sfAddr := by
  cases sfAddr with
  | none => simp [scaled, exponentAt, eq_comm]
  | some addr =>
      constructor
      · intro result
        obtain ⟨words, answer, result⟩ := bind_ok result
        obtain ⟨implemented, rfl⟩ := read_sunssf.mp answer
        rw [List.headD_cons, applySunssf, if_neg implemented, Except.ok.injEq] at result
        refine ⟨?_, result.symm⟩
        rintro _ ⟨⟩
        exact implemented
      · rintro ⟨implemented, rfl⟩
        have answer := read_sunssf.mpr ⟨implemented addr rfl, rfl⟩
        simp only [scaled, answer, bind, Except.bind]
        exact if_neg (implemented addr rfl)

/-- Every writable shipped point with a scale factor names a `sunssf` point of its own model,
outside its own registers. -/
def sfApart (points : List PointDef) (p : PointDef) : Bool :=
  match p.sf with
  | none => true
  | some id =>
      match points.find? fun q => q.id = id with
      | none => false
      | some sf => decide (p.kind.registerCount ≤ (sf.offset - p.offset).toNat)

theorem shipped_sfApart {modelId : BitVec 16} {points : List PointDef}
    (shipped : shippedModel modelId = some points) {p : PointDef} (member : p ∈ points)
    (access : p.writable = true) : sfApart points p = true := by
  have checked : ∀ points ∈ [common, inverterThreePhase, epcControl], ∀ p ∈ points,
      p.writable = true → sfApart points p = true := by decide +kernel
  refine checked points ?_ p member access
  unfold shippedModel at shipped
  split at shipped
  · simp_all
  · split at shipped
    · simp_all
    · split at shipped
      · simp_all
      · simp at shipped

/-! Resolving a binding -/

theorem readable_point {b : SunspecBinding} {found : PointDef} (resolved : readable b = .ok found) :
    point b.modelId b.point = some found := by
  unfold readable at resolved
  obtain ⟨other, listed, resolved⟩ := bind_ok resolved
  have same : other = found := by
    cases named : b.bit with
    | none =>
        rw [named] at resolved
        exact Except.ok.inj resolved
    | some bit =>
        simp only [named] at resolved
        split at resolved
        · split at resolved
          · exact Except.ok.inj resolved
          · exact absurd resolved (by simp)
        · exact absurd resolved (by simp)
  rw [← same]
  exact okOr_ok listed

theorem writable_eq_ok {b : SunspecBinding} {found : PointDef}
    (resolved : writable b = .ok found) :
    readable b = .ok found ∧ found.writable = true ∧
      (b.bit = none → found.kind ≠ .bitfield32) := by
  unfold writable at resolved
  obtain ⟨other, read, resolved⟩ := bind_ok resolved
  dsimp only at resolved
  split at resolved
  · exact absurd resolved (by simp)
  · rename_i access
    split at resolved
    · exact absurd resolved (by simp)
    · rename_i single
      cases Except.ok.inj resolved
      refine ⟨read, by simpa using access, ?_⟩
      intro whole bitfield
      exact single ⟨bitfield, whole⟩

theorem address_apart {device : Device} {b : SunspecBinding} {found : PointDef} {addr : Address}
    {sfAddr : Option Address} (resolved : writable b = .ok found)
    (located : address device.models b found = .ok (addr, sfAddr)) :
    ∀ a, sfAddr = some a → found.kind.registerCount ≤ (a - addr).toNat := by
  obtain ⟨read, access, _⟩ := writable_eq_ok resolved
  obtain ⟨points, shipped, listed⟩ := Option.bind_eq_some_iff.mp (readable_point read)
  have apart := shipped_sfApart shipped (List.mem_of_find?_eq_some listed) access
  unfold address at located
  obtain ⟨start, _, located⟩ := bind_ok located
  unfold sfApart at apart
  cases named : found.sf with
  | none =>
      simp only [named] at located
      cases Except.ok.inj located
      simp
  | some id =>
      simp only [named] at located apart
      obtain ⟨sf, owned, located⟩ := bind_ok located
      have same : points.find? (fun q => q.id = id) = some sf := by
        have sfListed := okOr_ok owned
        rwa [point, shipped, Option.bind_some] at sfListed
      simp only [same, decide_eq_true_eq] at apart
      cases Except.ok.inj located
      rintro _ ⟨⟩
      have offsets : start + sf.offset - (start + found.offset) = sf.offset - found.offset := by
        ring
      rwa [offsets]

/-! What is reserved -/

def reserved (kind : PointType) : ℤ :=
  match kind with
  | .int16 | .sunssf => -32768
  | .uint16 | .enum16 => 65535
  | .int32 => -2147483648
  | .acc32 => 0
  | .bitfield32 => 4294967295

theorem dataType_integer (kind : PointType) : dataType kind ≠ .float32 := by
  cases kind <;> simp [dataType]

theorem registerCount_dataType (kind : PointType) :
    (dataType kind).registerCount = kind.registerCount := by
  cases kind <;> rfl

theorem decodeRaw_notImplemented (kind : PointType) :
    decodeRaw (notImplemented kind) (dataType kind) .highLow = some (.finite (reserved kind)) := by
  cases kind <;> decide +kernel

theorem encodeFinite_reserved (kind : PointType) :
    encodeFinite (reserved kind) (dataType kind) .highLow = notImplemented kind := by
  cases kind <;> decide +kernel

theorem encodeFinite_eq_notImplemented {kind : PointType} {raw : ℚ}
    (inside : roundHalfAway raw ∈ integerRange (dataType kind)) :
    encodeFinite raw (dataType kind) .highLow = notImplemented kind ↔
      roundHalfAway raw = reserved kind := by
  constructor
  · intro same
    have decoded := decodeRaw_encodeFinite (dataType_integer kind) .highLow inside
    rw [same, decodeRaw_notImplemented, Option.some.injEq, F64.finite.injEq,
      Int.cast_inj] at decoded
    exact decoded.symm
  · intro same
    rw [← encodeFinite_round (dataType_integer kind), same, encodeFinite_reserved]

/-! Writing, then reading -/

theorem writeSetpoint_eq_ok {device after : Device} {b : SunspecBinding} {value : ℚ}
    (written : writeSetpoint device b value = .ok after) :
    ∃ found addr sfAddr scale words, writable b = .ok found ∧ b.bit = none ∧
      (∃ unit, key b = .ok unit) ∧ address device.models b found = .ok (addr, sfAddr) ∧
      scaled device 1 sfAddr = .ok scale ∧
      encodeRaw (.finite (value / scale)) (dataType found.kind) .highLow = .ok words ∧
      writeRegisters device addr words = .ok after := by
  unfold writeSetpoint at written
  obtain ⟨unit, keyed, written⟩ := bind_ok written
  have written := mapError_ok written
  unfold write at written
  obtain ⟨found, resolved, written⟩ := bind_ok written
  split at written
  · exact absurd written (by simp)
  · rename_i whole
    obtain ⟨⟨addr, sfAddr⟩, located, written⟩ := bind_ok written
    obtain ⟨scale, units, written⟩ := bind_ok written
    obtain ⟨words, encoded, written⟩ := bind_ok written
    exact ⟨found, addr, sfAddr, scale, words, resolved, by simpa using whole, ⟨unit, keyed⟩,
      located, units, encoded, written⟩

theorem readOn_of_implemented {device : Device} {b : SunspecBinding} {found : PointDef}
    {addr : Address} {sfAddr : Option Address} {words : List Register} {raw value : ℚ}
    (resolved : readable b = .ok found) (keyed : ∃ unit, key b = .ok unit) (whole : b.bit = none)
    (located : address device.models b found = .ok (addr, sfAddr))
    (answer : read device addr found.kind = .ok words)
    (decoded : decodeRaw words (dataType found.kind) .highLow = some (.finite raw))
    (units : scaled device raw sfAddr = .ok value) : readOn device b = .ok value := by
  obtain ⟨unit, keyed⟩ := keyed
  have point : readPoint device b found = .ok value := by
    simp only [readPoint, located, answer, decodePoint, decoded, whole, bind, Except.bind]
    exact units
  simp only [readOn, resolved, keyed, point, inContext, bind, Except.bind, Except.mapError]

theorem readOn_of_reserved {device : Device} {b : SunspecBinding} {found : PointDef}
    {addr : Address} {sfAddr : Option Address} (resolved : readable b = .ok found)
    (located : address device.models b found = .ok (addr, sfAddr))
    (answer : readRegisters device addr found.kind.registerCount =
      .ok (notImplemented found.kind)) (value : ℚ) : readOn device b ≠ .ok value := by
  intro result
  unfold readOn at result
  rw [resolved] at result
  obtain ⟨_, found', result⟩ := bind_ok result
  cases Except.ok.inj found'
  obtain ⟨_, _, result⟩ := bind_ok result
  have result := mapError_ok result
  unfold readPoint at result
  rw [located] at result
  obtain ⟨_, same, result⟩ := bind_ok result
  cases Except.ok.inj same
  obtain ⟨words, readBack, _⟩ := bind_ok result
  obtain ⟨registers, implemented⟩ := read_eq_ok.mp readBack
  rw [answer, Except.ok.injEq] at registers
  exact implemented registers.symm

theorem setpoint_readsBack_iff {device after : Device} {b : SunspecBinding} {found : PointDef}
    {value : ℚ} (resolved : writable b = .ok found)
    (written : writeSetpoint device b value = .ok after) :
    (∃ measured, readOn after b = .ok measured ∧
      |measured - value| ≤ 10 ^ scaleFactor device b found / 2) ↔
      roundHalfAway (value / 10 ^ scaleFactor device b found) ≠ reserved found.kind := by
  obtain ⟨other, addr, sfAddr, scale, words, resolved', whole, keyed, located, units, encoded,
    stored⟩ := writeSetpoint_eq_ok written
  rw [resolved, Except.ok.injEq] at resolved'
  subst resolved'
  have factor : scaleFactor device b found = exponentAt device sfAddr := by
    simp [scaleFactor, located]
  obtain ⟨implemented, scale_eq⟩ := scaled_eq_ok.mp units
  rw [one_mul] at scale_eq
  subst scale_eq
  rw [factor]
  obtain ⟨inside, same⟩ := encodeRaw_eq_ok (dataType_integer found.kind) _ encoded
  obtain ⟨read, _, _⟩ := writable_eq_ok resolved
  obtain ⟨_, models, _⟩ := writeRegisters_eq_ok stored
  have located' : address after.models b found = .ok (addr, sfAddr) := by rw [models, located]
  have count : words.length = found.kind.registerCount := by
    rw [← same, length_encodeFinite (dataType_integer found.kind), registerCount_dataType]
  have registers := readRegisters_of_written stored
  rw [count] at registers
  rw [ne_eq, ← encodeFinite_eq_notImplemented inside, same]
  constructor
  · rintro ⟨measured, readBack, _⟩ reserves
    rw [reserves] at registers
    exact readOn_of_reserved read located' registers measured readBack
  · intro distinct
    have unchanged : ∀ a, sfAddr = some a → after.registers a = device.registers a := by
      intro a scales
      exact registers_of_apart stored (by rw [count]; exact address_apart resolved located a scales)
    have exponent : exponentAt after sfAddr = exponentAt device sfAddr := by
      cases sfAddr with
      | none => rfl
      | some a => exact congrArg BitVec.toInt (unchanged a rfl)
    have decoded : decodeRaw words (dataType found.kind) .highLow =
        some (.finite (roundHalfAway (value / 10 ^ exponentAt device sfAddr))) := by
      rw [← same]
      exact decodeRaw_encodeFinite (dataType_integer found.kind) _ inside
    have units' : scaled after (roundHalfAway (value / 10 ^ exponentAt device sfAddr)) sfAddr =
        .ok (roundHalfAway (value / 10 ^ exponentAt device sfAddr) *
          10 ^ exponentAt device sfAddr) := by
      refine scaled_eq_ok.mpr ⟨?_, by rw [exponent]⟩
      intro a scales
      rw [unchanged a scales]
      exact implemented a scales
    refine ⟨_, readOn_of_implemented read keyed whole located'
      (read_eq_ok.mpr ⟨registers, distinct⟩) decoded units', ?_⟩
    have positive : (0 : ℚ) < 10 ^ exponentAt device sfAddr := by positivity
    have close := abs_roundHalfAway_div_mul_sub positive.ne' value
    rwa [abs_of_pos positive] at close

/-- An EPC control model at 40100 with `A_SF` = -1 and every other register zero. -/
def epcDevice : Device where
  models := Function.update (fun _ => none) 65534 (some 40100)
  registers := Function.update (fun _ => 0) 40116 0xFFFF

def realCurrent : SunspecBinding where
  unitId := some 1
  modelId := 65534
  point := "CmdRealCurrent"

def realCurrentPoint : PointDef := .w "CmdRealCurrent" 24 .int16 (some "A_SF")

theorem setpoint_readsBack_example :
    ∃ after, writeSetpoint epcDevice realCurrent (25 / 2) = .ok after ∧
      ∃ measured, readOn after realCurrent = .ok measured ∧
        |measured - 25 / 2| ≤ 10 ^ scaleFactor epcDevice realCurrent realCurrentPoint / 2 := by
  have succeeds : (writeSetpoint epcDevice realCurrent (25 / 2)).toBool = true := by
    decide +kernel
  obtain ⟨after, written⟩ := ok_of_toBool succeeds
  exact ⟨after, written, (setpoint_readsBack_iff (by decide +kernel) written).mpr
    (by decide +kernel)⟩

theorem setpoint_not_readsBack :
    ∃ after, writeSetpoint epcDevice realCurrent (-32768 / 10) = .ok after ∧
      ¬∃ measured, readOn after realCurrent = .ok measured ∧
        |measured - -32768 / 10| ≤
          10 ^ scaleFactor epcDevice realCurrent realCurrentPoint / 2 := by
  have succeeds : (writeSetpoint epcDevice realCurrent (-32768 / 10)).toBool = true := by
    decide +kernel
  have refused : (writeSetpoint epcDevice realCurrent (-32768 / 10) >>=
      fun after => readOn after realCurrent) = .error "sunspec 65534 CmdRealCurrent" := by
    decide +kernel
  obtain ⟨after, written⟩ := ok_of_toBool succeeds
  rw [written] at refused
  have unread : readOn after realCurrent = .error "sunspec 65534 CmdRealCurrent" := refused
  refine ⟨after, written, ?_⟩
  rintro ⟨measured, readBack, _⟩
  rw [unread] at readBack
  exact absurd readBack (by simp)

end EmsGateway.Sunspec
