import EmsGateway.Library.Retry
import EmsGateway.Modbus.CodecCore
import EmsGateway.Sunspec.PointsCore

/-!
Register reads and writes on an open session (`modbus::transport`), and the readings and setpoints
made of them (`modbus::client`). A line says what came of each request and how long it took; for a
write also whether the device took the words, which a lost answer does not tell. What `rodbus` says
of enabling a channel and of an address range is an answer too.
-/

namespace EmsGateway.Modbus

open EmsGateway.Library

/-! `function_code` -/

inductive ReadFunction where
  | holding
  | input
  deriving DecidableEq, Repr

def readFunction (code : Option ℕ) : Except String ReadFunction :=
  match code with
  | none => .ok .holding
  | some 3 => .ok .holding
  | some 4 => .ok .input
  | some other => .error s!"function_code {other} is not a register read (3 or 4)"

def ReadFunction.debug (function : ReadFunction) : String :=
  match function with
  | .holding => "Holding"
  | .input => "Input"

def WriteFunction.debug (function : WriteFunction) : String :=
  match function with
  | .single => "Single"
  | .multiple => "Multiple"

/-! `transport` -/

/-- An exception is the device's definite answer; anything else that goes wrong is tried again. -/
inductive Reply (α : Type) where
  | ok (value : α)
  | exception (message : String)
  | failed (message : String)

def Reply.attempt {α : Type} (reply : Reply α) : Attempt String α :=
  match reply with
  | .ok value => .done value
  | .exception message => .refused message
  | .failed message => .failed message

def maxAttempts : ℕ := 5

/-- 500 ms, doubled with each attempt. -/
def backoff (attempt : ℕ) : Duration := nanosPerSec / 2 * 2 ^ attempt

structure Line (α : Type) where
  enable : Except String Unit
  valid : Except String Unit
  exchange : ℕ → Reply α × Duration

structure Answered (α : Type) where
  result : Except String α
  requests : ℕ
  time : Duration

/-- The loop that `read_registers` and `write_registers` share. -/
def request {α : Type} (what invalid : String) (line : Line α) : Answered α :=
  match line.enable, line.valid with
  | .error _, _ => ⟨.error "modbus channel enable", 0, 0⟩
  | .ok (), .error message => ⟨.error s!"{invalid}: {message}", 0, 0⟩
  | .ok (), .ok () =>
      let tried := retry backoff (fun k => ((line.exchange k).1.attempt, (line.exchange k).2))
        maxAttempts
      { result := tried.result.mapError fun failure =>
          match failure with
          | .refused _ => s!"modbus {what} refused"
          | .exhausted _ => s!"modbus {what} exhausted retries"
        requests := tried.requests
        time := tried.time }

def readRegisters (function : ReadFunction) (line : Line (List Register)) :
    Answered (List Register) :=
  request s!"{function.debug} read" "invalid modbus address range" line

def writeRegisters (function : WriteFunction) (line : Line Unit) : Answered Unit :=
  request s!"{function.debug} write" "invalid modbus write request" line

/-! `client` -/

/-- `raw * scale + offset`, in `f64`. -/
def F64.scaleOffset (raw : F64) (scale offset : ℚ) : F64 :=
  match raw with
  | .finite x => .finite (applyScaleOffset x scale offset)
  | .infinite negative => if scale = 0 then .nan else .infinite (negative != decide (scale < 0))
  | .nan => .nan

structure MeasurementBinding extends ModbusTcpBinding where
  scaleFactorAddress : Option (BitVec 16)

/-- `line` carries the read of the value, `scaleFactorLine` that of its scale factor. -/
def readOn (b : MeasurementBinding) (line scaleFactorLine : Line (List Register)) :
    Except String F64 := do
  let function ← readFunction b.functionCode
  let _ ← unitId b.toModbusTcpBinding
  let words ← (readRegisters function line).result
  let raw ← okOr (decodeRaw words b.dataType b.wordOrder) "index out of bounds"
  match b.scaleFactorAddress with
  | some _ =>
      let sf ← (readRegisters function scaleFactorLine).result
      let factor ← Sunspec.applySunssf 1 (sf.headD 0)
      return (raw.scaleOffset factor 0).scaleOffset b.scale b.offset
  | none => return raw.scaleOffset b.scale b.offset

/-! The device -/

/-- What a device holds at each address of its two register spaces. -/
abbrev Registers := ReadFunction → ℕ → Register

/-- FC6 carries the first word only. -/
def WriteRequest.sent (request : WriteRequest) : List Register :=
  match request.function with
  | .single => request.words.take 1
  | .multiple => request.words

def WriteRequest.put (request : WriteRequest) (registers : Registers) : Registers :=
  Function.update registers .holding fun a =>
    if request.address.toNat ≤ a then
      (request.sent[a - request.address.toNat]?).getD (registers .holding a)
    else registers .holding a

/-- `lands` tells of each request whether the device took it. -/
structure WriteLine extends Line Unit where
  lands : ℕ → Bool

def WriteLine.landed (line : WriteLine) (request : WriteRequest) (requests : ℕ)
    (registers : Registers) : Registers :=
  (List.range requests).foldl
    (fun registers k => if line.lands k then request.put registers else registers) registers

structure Delivered where
  answered : Answered Unit
  registers : Registers

/-- `write_setpoint` on a session that is open. -/
def deliverSetpoint (b : ModbusTcpBinding) (value : ℚ) (line : WriteLine) (registers : Registers) :
    Delivered :=
  match writeSetpoint b value with
  | .error message => ⟨⟨.error message, 0, 0⟩, registers⟩
  | .ok request =>
      let answered := writeRegisters request.function line.toLine
      ⟨answered, line.landed request answered.requests registers⟩

end EmsGateway.Modbus
