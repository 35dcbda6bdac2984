import EmsGateway.Modbus.Float64

/-!
Template-declared heartbeats: which of them a spec keeps (`asyncapi::types::heartbeat`), and the
loop that writes the counter (`heartbeat`). A tick finds the broker link up or down, some devices
locked out, and a session that carries the write out or does not.
-/

namespace EmsGateway.Modbus

/-- Of a binding to another protocol only that it is one. -/
inductive HeartbeatBinding where
  | modbusTcp (binding : ModbusTcpBinding)
  | other
  deriving DecidableEq, Repr

structure HeartbeatSource where
  counterModulo : Fin 65536
  periodS : F64
  binding : HeartbeatBinding
  deriving DecidableEq, Repr

def isPeriod (seconds : F64) : Bool :=
  match seconds with
  | .finite x => decide (0 < x)
  | _ => false

def runnable (h : HeartbeatSource) : Except String Unit :=
  let modulo := h.counterModulo.val
  if modulo < 2 then .error s!"counter_modulo {modulo} doesn't count"
  else if isPeriod h.periodS = false then
    .error s!"period_s {h.periodS.display} isn't a period"
  else
    match h.binding with
    | .modbusTcp m => (writeFunction m.functionCode m.dataType).map fun _ => ()
    | .other => .error "only modbus_tcp heartbeats are supported"

/-- `period` only paces the ticks. -/
structure Counter where
  deviceId : String
  binding : ModbusTcpBinding
  modulo : ℕ

structure CounterTick where
  connected : Bool
  locked : Finset String
  lands : WriteRequest → Bool

def steerable (tick : CounterTick) (deviceId : String) : Bool :=
  tick.connected && decide (deviceId ∉ tick.locked)

/-- The next count, and the registers the device has been given, the last first. -/
structure Feed where
  count : ℕ
  written : List (List Register)

def Feed.start : Feed := ⟨0, []⟩

def Feed.tick (c : Counter) (feed : Feed) (tick : CounterTick) : Feed :=
  if steerable tick c.deviceId = false then feed
  else
    match writeSetpointF64 c.binding feed.count with
    | .error _ => feed
    | .ok request =>
        if tick.lands request then ⟨(feed.count + 1) % c.modulo, request.words :: feed.written⟩
        else feed

end EmsGateway.Modbus
