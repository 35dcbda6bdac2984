import EmsGateway.Base
import EmsGateway.Library.Rounding

/-!
Modbus register decode and encode (`modbus::codec`), and the register write `write_setpoint` makes
of a command (`modbus::client`, `modbus::function_code`). A finite `f64` is an exact rational; an
index past a slice's end, where the source panics, gives `none`. The `Int64` bounds are the powers
of two that their literals are read as.
-/

namespace EmsGateway.Modbus

open EmsGateway.Library

abbrev Register := BitVec 16

inductive F64 where
  | finite (value : ℚ)
  | infinite (negative : Bool)
  | nan
  deriving DecidableEq, Repr

def F64.display (value : F64) : String :=
  match value with
  | .finite x => toString x
  | .infinite negative => if negative then "-inf" else "inf"
  | .nan => "NaN"

inductive WordOrder where
  | highLow
  | lowHigh
  deriving DecidableEq, Repr

inductive ModbusDataType where
  | int16
  | uint16
  | int32
  | uint32
  | float32
  | int64
  deriving DecidableEq, Repr

namespace ModbusDataType

def registerCount (dataType : ModbusDataType) : ℕ :=
  match dataType with
  | .int16 | .uint16 => 1
  | .int32 | .uint32 | .float32 => 2
  | .int64 => 4

def debug (dataType : ModbusDataType) : String :=
  match dataType with
  | .int16 => "Int16"
  | .uint16 => "Uint16"
  | .int32 => "Int32"
  | .uint32 => "Uint32"
  | .float32 => "Float32"
  | .int64 => "Int64"

end ModbusDataType

/-! Integers -/

def decodeUint32 (words : List Register) (order : WordOrder) : Option (BitVec 32) :=
  match words with
  | first :: second :: _ =>
      let (high, low) :=
        match order with
        | .highLow => (first, second)
        | .lowHigh => (second, first)
      some (high.setWidth 32 <<< 16 ||| low.setWidth 32)
  | _ => none

def encodeUint32 (value : BitVec 32) (order : WordOrder) : List Register :=
  let high := (value >>> 16).setWidth 16
  let low := value.setWidth 16
  match order with
  | .highLow => [high, low]
  | .lowHigh => [low, high]

def decodeInt32 (words : List Register) (order : WordOrder) : Option ℤ :=
  (decodeUint32 words order).map BitVec.toInt

def encodeInt32 (value : BitVec 32) (order : WordOrder) : List Register :=
  encodeUint32 value order

def decodeInt64 (words : List Register) (order : WordOrder) : Option ℤ :=
  match words with
  | a :: b :: c :: d :: _ =>
      let ordered :=
        match order with
        | .highLow => [a, b, c, d]
        | .lowHigh => [d, c, b, a]
      some (ordered.foldl (fun (acc : BitVec 64) w => acc <<< 16 ||| w.setWidth 64) 0).toInt
  | _ => none

def encodeInt64 (raw : BitVec 64) (order : WordOrder) : List Register :=
  let a := (raw >>> 48).setWidth 16
  let b := (raw >>> 32).setWidth 16
  let c := (raw >>> 16).setWidth 16
  let d := raw.setWidth 16
  match order with
  | .highLow => [a, b, c, d]
  | .lowHigh => [d, c, b, a]

/-- `as` into a signed type of this width: saturating. -/
def asSigned (width : ℕ) (value : ℤ) : BitVec width :=
  BitVec.ofInt width (max (-2 ^ (width - 1)) (min value (2 ^ (width - 1) - 1)))

/-- `as` into an unsigned type of this width: saturating. -/
def asUnsigned (width : ℕ) (value : ℤ) : BitVec width :=
  BitVec.ofInt width (max 0 (min value (2 ^ width - 1)))

/-! `f32`: 8 exponent bits biased by 127 over 23 fraction bits, rounding to nearest even -/

def f32Infinity : ℕ := 255 * 2 ^ 23

def fromF32Bits (bits : BitVec 32) : F64 :=
  let exponent : ℕ := bits.toNat / 2 ^ 23 % 256
  let fraction : ℕ := bits.toNat % 2 ^ 23
  let sign : ℚ := if bits.msb then -1 else 1
  if exponent = 255 then
    if fraction = 0 then .infinite bits.msb else .nan
  else if exponent = 0 then .finite (sign * fraction * 2 ^ (-149 : ℤ))
  else .finite (sign * (2 ^ 23 + fraction) * 2 ^ ((exponent : ℤ) - 150))

/-- The bits of `|x|` as an `f32`. A carry out of the rounded significand runs into the exponent, as
it should; from `f32Infinity` on the value has overflowed. -/
def f32Magnitude (x : ℚ) : ℕ :=
  if x = 0 then 0
  else
    let exponent := max (Int.log 2 |x|) (-126)
    ((exponent + 126) * 2 ^ 23 + roundHalfEven (|x| / 2 ^ (exponent - 23))).toNat

def asF32Bits (x : ℚ) : BitVec 32 :=
  BitVec.ofNat 32 (min (f32Magnitude x) f32Infinity + if x < 0 then 2 ^ 31 else 0)

/-! Measurements and setpoints -/

def decodeRaw (words : List Register) (dataType : ModbusDataType) (order : WordOrder) :
    Option F64 :=
  match dataType with
  | .uint16 => words.head?.map fun w => .finite w.toNat
  | .int16 => words.head?.map fun w => .finite w.toInt
  | .int32 => (decodeInt32 words order).map fun (value : ℤ) => .finite value
  | .uint32 => (decodeUint32 words order).map fun value => .finite value.toNat
  | .float32 => (decodeUint32 words order).map fromF32Bits
  | .int64 => (decodeInt64 words order).map fun (value : ℤ) => .finite value

/-- The encoder's `range`: the rounded value lies in `[min, max)`. -/
def inRange (raw min max : ℚ) : Bool :=
  decide (min ≤ roundHalfAway raw ∧ (roundHalfAway raw : ℚ) < max)

def fits (raw : ℚ) (dataType : ModbusDataType) : Bool :=
  match dataType with
  | .uint16 => inRange raw 0 65536
  | .int16 => inRange raw (-32768) 32768
  | .int32 => inRange raw (-2147483648) 2147483648
  | .uint32 => inRange raw 0 4294967296
  | .int64 => inRange raw (-2 ^ 63) (2 ^ 63)
  | .float32 => decide (f32Magnitude raw < f32Infinity)

def encodeFinite (raw : ℚ) (dataType : ModbusDataType) (order : WordOrder) : List Register :=
  match dataType with
  | .uint16 => [asUnsigned 16 (roundHalfAway raw)]
  | .int16 => [asSigned 16 (roundHalfAway raw)]
  | .int32 => encodeInt32 (asSigned 32 (roundHalfAway raw)) order
  | .uint32 => encodeUint32 (asUnsigned 32 (roundHalfAway raw)) order
  | .float32 => encodeUint32 (asF32Bits raw) order
  | .int64 => encodeInt64 (asSigned 64 (roundHalfAway raw)) order

def encodeRaw (raw : F64) (dataType : ModbusDataType) (order : WordOrder) :
    Except String (List Register) :=
  match raw with
  | .finite x =>
      if fits x dataType then .ok (encodeFinite x dataType order)
      else .error s!"{raw.display} doesn't fit a {dataType.debug} register"
  | _ => .error s!"{raw.display} doesn't fit a {dataType.debug} register"

def applyScaleOffset (raw scale offset : ℚ) : ℚ := raw * scale + offset

/-- `f64` division: by zero it gives an infinity, or NaN for `0 / 0`. -/
def toRaw (value scale offset : ℚ) : F64 :=
  if scale = 0 then
    if value = offset then .nan else .infinite (value < offset)
  else .finite ((value - offset) / scale)

/-! The register write of a command -/

/-- The fields of the binding that `read_on` and `write_setpoint` turn into registers; the session
they go out on takes the host and port. `unitId` is the binding's text as a `u8`, if it parses. -/
structure ModbusTcpBinding where
  unitId : Option (Fin 256)
  address : BitVec 16
  scale : ℚ
  offset : ℚ
  dataType : ModbusDataType := .int32
  wordOrder : WordOrder := .highLow
  functionCode : Option ℕ := none
  deriving DecidableEq, Repr

inductive WriteFunction where
  | single
  | multiple
  deriving DecidableEq, Repr

def writeFunction (code : Option ℕ) (dataType : ModbusDataType) : Except String WriteFunction :=
  match code with
  | none => .ok .multiple
  | some 16 => .ok .multiple
  | some 6 =>
      if dataType.registerCount = 1 then .ok .single
      else
        let spans := dataType.registerCount
        .error s!"function_code 6 writes one register but {dataType.debug} spans {spans}"
  | some other => .error s!"function_code {other} is not a register write (6 or 16)"

def unitId (binding : ModbusTcpBinding) : Except String (Fin 256) :=
  match binding.unitId with
  | some unit => .ok unit
  | none => .error "unit_id must parse to u8 for Modbus"

structure WriteRequest where
  unitId : Fin 256
  address : BitVec 16
  words : List Register
  function : WriteFunction
  deriving DecidableEq, Repr

/-- What `write_setpoint` hands to the session. -/
def writeSetpoint (binding : ModbusTcpBinding) (value : ℚ) : Except String WriteRequest := do
  let function ← writeFunction binding.functionCode binding.dataType
  let words ← encodeRaw (toRaw value binding.scale binding.offset) binding.dataType
    binding.wordOrder
  let unit ← unitId binding
  return ⟨unit, binding.address, words, function⟩

end EmsGateway.Modbus
