import EmsGateway.Sunspec.DiscoverCore
import EmsGateway.Library.Outcomes

/-!
SunSpec points: the shipped model definitions (`sunspec::models`), a binding resolved to registers
(`sunspec::resolve`), and the scaled reads and writes (`sunspec::client`, `sunspec::write`,
`modbus::sunspec`). A device is its discovered model map and its registers; the context an error
carries is the message shown. Powers of ten are exact.
-/

namespace EmsGateway.Sunspec

open EmsGateway.Library EmsGateway.Modbus

/-! `models` -/

inductive PointType where
  | int16
  | uint16
  | int32
  | acc32
  | enum16
  | bitfield32
  | sunssf
  deriving DecidableEq, Repr

def PointType.registerCount (kind : PointType) : ℕ :=
  match kind with
  | .int16 | .uint16 | .enum16 | .sunssf => 1
  | .int32 | .acc32 | .bitfield32 => 2

def PointType.debug (kind : PointType) : String :=
  match kind with
  | .int16 => "Int16"
  | .uint16 => "Uint16"
  | .int32 => "Int32"
  | .acc32 => "Acc32"
  | .enum16 => "Enum16"
  | .bitfield32 => "Bitfield32"
  | .sunssf => "Sunssf"

structure PointDef where
  id : String
  offset : BitVec 16
  kind : PointType
  sf : Option String
  writable : Bool
  deriving DecidableEq, Repr

def PointDef.r (id : String) (offset : BitVec 16) (kind : PointType) (sf : Option String) :
    PointDef :=
  ⟨id, offset, kind, sf, false⟩

def PointDef.w (id : String) (offset : BitVec 16) (kind : PointType) (sf : Option String) :
    PointDef :=
  ⟨id, offset, kind, sf, true⟩

def common : List PointDef := [
  .w "DA" 64 .uint16 none]

def inverterThreePhase : List PointDef := [
  .r "A" 0 .uint16 (some "A_SF"),
  .r "AphA" 1 .uint16 (some "A_SF"),
  .r "AphB" 2 .uint16 (some "A_SF"),
  .r "AphC" 3 .uint16 (some "A_SF"),
  .r "A_SF" 4 .sunssf none,
  .r "PPVphAB" 5 .uint16 (some "V_SF"),
  .r "PPVphBC" 6 .uint16 (some "V_SF"),
  .r "PPVphCA" 7 .uint16 (some "V_SF"),
  .r "PhVphA" 8 .uint16 (some "V_SF"),
  .r "PhVphB" 9 .uint16 (some "V_SF"),
  .r "PhVphC" 10 .uint16 (some "V_SF"),
  .r "V_SF" 11 .sunssf none,
  .r "W" 12 .int16 (some "W_SF"),
  .r "W_SF" 13 .sunssf none,
  .r "Hz" 14 .uint16 (some "Hz_SF"),
  .r "Hz_SF" 15 .sunssf none,
  .r "VA" 16 .int16 (some "VA_SF"),
  .r "VA_SF" 17 .sunssf none,
  .r "VAr" 18 .int16 (some "VAr_SF"),
  .r "VAr_SF" 19 .sunssf none,
  .r "PF" 20 .int16 (some "PF_SF"),
  .r "PF_SF" 21 .sunssf none,
  .r "WH" 22 .acc32 (some "WH_SF"),
  .r "WH_SF" 24 .sunssf none,
  .r "DCA" 25 .uint16 (some "DCA_SF"),
  .r "DCA_SF" 26 .sunssf none,
  .r "DCV" 27 .uint16 (some "DCV_SF"),
  .r "DCV_SF" 28 .sunssf none,
  .r "DCW" 29 .int16 (some "DCW_SF"),
  .r "DCW_SF" 30 .sunssf none,
  .r "TmpCab" 31 .int16 (some "Tmp_SF"),
  .r "TmpSnk" 32 .int16 (some "Tmp_SF"),
  .r "TmpTrns" 33 .int16 (some "Tmp_SF"),
  .r "TmpOt" 34 .int16 (some "Tmp_SF"),
  .r "Tmp_SF" 35 .sunssf none,
  .r "St" 36 .enum16 none,
  .r "StVnd" 37 .enum16 none,
  .r "Evt1" 38 .bitfield32 none,
  .r "Evt2" 40 .bitfield32 none,
  .r "EvtVnd1" 42 .bitfield32 none,
  .r "EvtVnd2" 44 .bitfield32 none,
  .r "EvtVnd3" 46 .bitfield32 none,
  .r "EvtVnd4" 48 .bitfield32 none]

def epcControl : List PointDef := [
  .w "CmdBits" 0 .bitfield32 none,
  .w "CmdRealPwr" 2 .int32 (some "PWR_SF"),
  .w "CmdReactivePwr" 4 .int32 (some "PWR_SF"),
  .r "PWR_SF" 6 .sunssf none,
  .w "CmdV" 7 .uint16 (some "V_SF"),
  .r "V_SF" 8 .sunssf none,
  .w "CmdHz" 9 .uint16 (some "HZ_SF"),
  .r "HZ_SF" 10 .sunssf none,
  .w "CtlSrc" 11 .enum16 none,
  .r "IMPPT" 12 .int16 (some "A_SF"),
  .r "Ivctl" 13 .int16 (some "A_SF"),
  .r "Vsol" 14 .int16 (some "V_SF"),
  .r "Vbat" 15 .int16 (some "V_SF"),
  .r "A_SF" 16 .sunssf none,
  .w "Spcl" 17 .bitfield32 none,
  .r "SysFlt" 19 .uint16 none,
  .r "FltFlgs" 20 .bitfield32 none,
  .r "WrnFlgs" 22 .bitfield32 none,
  .w "CmdRealCurrent" 24 .int16 (some "A_SF"),
  .w "CmdReactiveCurrent" 25 .int16 (some "A_SF"),
  .r "RealCurrent" 26 .int16 (some "A_SF"),
  .r "ReactiveCurrent" 27 .int16 (some "A_SF"),
  .r "LocVAC" 28 .uint16 (some "V_SF"),
  .r "RemPhVphA" 29 .uint16 (some "V_SF"),
  .r "RemPhVphB" 30 .uint16 (some "V_SF"),
  .r "RemPhVphC" 31 .uint16 (some "V_SF"),
  .r "RemVAC" 32 .uint16 (some "V_SF"),
  .r "RemHz" 33 .uint16 (some "HZ_SF"),
  .r "TMP_SF" 34 .sunssf none,
  .r "TmpInt" 35 .int16 (some "TMP_SF"),
  .r "TmpInlet" 36 .int16 (some "TMP_SF"),
  .r "RemPPVphCA" 37 .uint16 (some "V_SF"),
  .r "RemPPVphAB" 38 .uint16 (some "V_SF"),
  .r "RemPPVphBC" 39 .uint16 (some "V_SF"),
  .w "DcILim" 40 .uint16 (some "A_SF"),
  .w "DcVLim" 41 .uint16 (some "V_SF"),
  .w "LineILim" 42 .uint16 (some "A_SF"),
  .w "InputCurrent" 43 .int16 (some "A_SF")]

def shippedModel (modelId : BitVec 16) : Option (List PointDef) :=
  if modelId = 1 then some common
  else if modelId = 103 then some inverterThreePhase
  else if modelId = 65534 then some epcControl
  else none

def point (modelId : BitVec 16) (id : String) : Option PointDef :=
  (shippedModel modelId).bind fun points => points.find? fun p => p.id = id

/-! `resolve` -/

/-- `unitId` is the binding's text as a `u8`, if it parses; host and port pick the session. -/
structure SunspecBinding where
  unitId : Option (Fin 256)
  modelId : BitVec 16
  point : String
  bit : Option ℕ := none
  deriving DecidableEq, Repr

def bitfieldBits : ℕ := 32

def readable (b : SunspecBinding) : Except String PointDef := do
  let modelId := b.modelId.toNat
  let found ← okOr (point b.modelId b.point)
    s!"no point {b.point} in a shipped SunSpec model {modelId}"
  match b.bit with
  | none => return found
  | some bit =>
      if found.kind = .bitfield32 then
        if bit < bitfieldBits then return found else throw s!"bit {bit} is past a bitfield32"
      else throw s!"{b.point} is {found.kind.debug}, not a bitfield"

def writable (b : SunspecBinding) : Except String PointDef := do
  let found ← readable b
  let modelId := b.modelId.toNat
  if !found.writable then throw s!"{b.point} in model {modelId} is read-only"
  else if found.kind = .bitfield32 ∧ b.bit = none then
    throw s!"{b.point} is a bitfield; a command names one bit"
  else return found

/-- Address of the point and of its scale factor. A scale factor point missing from its own model
would be a panic; no shipped table has one. -/
def address (models : ModelMap) (b : SunspecBinding) (found : PointDef) :
    Except String (Address × Option Address) := do
  let modelId := b.modelId.toNat
  let start ← okOr (models b.modelId) s!"device serves no SunSpec model {modelId}"
  match found.sf with
  | none => return (start + found.offset, none)
  | some id =>
      let sf ← okOr (point b.modelId id) "model tables name their own sf points"
      return (start + found.offset, some (start + sf.offset))

/-! Registers -/

structure Device where
  models : ModelMap
  registers : Address → Register

def inAddressSpace (addr : Address) (count : ℕ) : Bool := decide (addr.toNat + count ≤ 2 ^ 16)

def readRegisters (device : Device) (addr : Address) (count : ℕ) :
    Except String (List Register) :=
  if inAddressSpace addr count then
    .ok ((List.range count).map fun i => device.registers (addr + BitVec.ofNat 16 i))
  else .error "invalid modbus address range"

def writeRegisters (device : Device) (addr : Address) (words : List Register) :
    Except String Device :=
  if inAddressSpace addr words.length then
    .ok { device with registers := fun a =>
            (words[(a - addr).toNat]?).getD (device.registers a) }
  else .error "invalid modbus write request"

/-! `modbus::sunspec` -/

def sfNotImplemented : Register := 0x8000

def applySunssf (raw : ℚ) (sfWord : Register) : Except String ℚ :=
  if sfWord = sfNotImplemented then
    .error "scale factor register reads 0x8000 (not implemented)"
  else .ok (raw * 10 ^ sfWord.toInt)

/-! `client` -/

def notImplemented (kind : PointType) : List Register :=
  match kind with
  | .int16 | .sunssf => [0x8000]
  | .uint16 | .enum16 => [0xFFFF]
  | .int32 => [0x8000, 0x0000]
  | .acc32 => [0x0000, 0x0000]
  | .bitfield32 => [0xFFFF, 0xFFFF]

def dataType (kind : PointType) : ModbusDataType :=
  match kind with
  | .int16 | .sunssf => .int16
  | .uint16 | .enum16 => .uint16
  | .int32 => .int32
  | .acc32 | .bitfield32 => .uint32

def read (device : Device) (addr : Address) (kind : PointType) : Except String (List Register) := do
  let words ← readRegisters device addr kind.registerCount
  if words = notImplemented kind then
    let (position, shown) := (addr.toNat, ", ".intercalate (words.map BitVec.toHex))
    throw s!"register {position} reads [{shown}], SunSpec's not implemented"
  else return words

/-- `decode_raw` of as many words as the type spans, which is always a number: no SunSpec point type
is a float. -/
def decodePoint (words : List Register) (kind : PointType) : Except String ℚ :=
  match decodeRaw words (dataType kind) .highLow with
  | some (.finite raw) => .ok raw
  | _ => .error "index out of bounds"

/-- `raw` times the point's scale factor, read on the same session; a point without one is not
scaled. -/
def scaled (device : Device) (raw : ℚ) (sfAddr : Option Address) : Except String ℚ :=
  match sfAddr with
  | some addr => do
      let sf ← read device addr .sunssf
      applySunssf raw (sf.headD 0)
  | none => .ok raw

def readPoint (device : Device) (b : SunspecBinding) (found : PointDef) : Except String ℚ := do
  let (addr, sfAddr) ← address device.models b found
  let words ← read device addr found.kind
  let raw ← decodePoint words found.kind
  match b.bit with
  | some bit => return (asUnsigned 32 ⌊raw⌋).toNat / 2 ^ bit % 2
  | none => scaled device raw sfAddr

def key (b : SunspecBinding) : Except String (Fin 256) :=
  okOr b.unitId "unit_id isn't a u8"

def inContext {α : Type} (b : SunspecBinding) (result : Except String α) : Except String α :=
  let modelId := b.modelId.toNat
  result.mapError fun _ => s!"sunspec {modelId} {b.point}"

def readOn (device : Device) (b : SunspecBinding) : Except String ℚ := do
  let found ← readable b
  let _ ← key b
  inContext b (readPoint device b found)

/-! `write` -/

def write (device : Device) (b : SunspecBinding) (value : ℚ) : Except String Device := do
  let found ← writable b
  if b.bit.isSome then throw s!"{b.point} bit commands aren't written as setpoints"
  else
    let (addr, sfAddr) ← address device.models b found
    let scale ← scaled device 1 sfAddr
    let words ← encodeRaw (.finite (value / scale)) (dataType found.kind) .highLow
    writeRegisters device addr words

def writeSetpoint (device : Device) (b : SunspecBinding) (value : ℚ) : Except String Device := do
  let _ ← key b
  inContext b (write device b value)

end EmsGateway.Sunspec
