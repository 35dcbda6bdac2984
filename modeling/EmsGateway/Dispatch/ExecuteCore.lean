import EmsGateway.Dispatch.DistributeCore
import EmsGateway.Envelope.ConfigCore

/-!
South-side writes: `write_shares` and `dispatch_distribute` of `dispatch::distribute`,
`dispatch::power_cap`, and `execute_setpoint`. What a device answers to a write is the
argument `south`; an `Executed` says which writes were started, in order, and how the call
ended. `write_caps` runs its writes concurrently; here they are listed in the order of the caps.
-/

namespace EmsGateway.Dispatch

open EmsGateway.Asyncapi EmsGateway.Envelope

inductive BitAction where
  | set
  | clear
  | pulse
  deriving DecidableEq, Repr

inductive Payload where
  | setpoint (value : ℚ)
  | bit (action : BitAction)
  deriving DecidableEq, Repr

structure Write where
  deviceId : String
  key : String
  payload : Payload
  deriving DecidableEq, Repr

abbrev South := Write → Except String Unit

structure Executed where
  started : List Write
  result : Except String Unit

def attempt (south : South) (write : Write) : Executed := ⟨[write], south write⟩

def refuse (message : String) : Executed := ⟨[], .error message⟩

def channelOf (channels : DeviceChannels) (deviceId key : String) : Option ProtocolBinding :=
  (channels deviceId).bind fun commands => commands key

/-! `distribute`. Whatever went wrong with a resolved child, the caller sees the outer context. -/

def writeShare (channels : DeviceChannels) (key : String) (south : South) (deviceId : String)
    (share : ℚ) : Executed :=
  let write : Write := ⟨deviceId, key, .setpoint share⟩
  let written :=
    match south write with
    | .ok () => .ok ()
    | .error _ => .error s!"write to child {deviceId} failed"
  match channelOf channels deviceId key with
  | none => refuse s!"child {deviceId} has no {key} binding"
  | some .modbusTcp => ⟨[write], written⟩
  | some (.sunspec _) => ⟨[write], written⟩
  | some _ => refuse s!"write to child {deviceId} failed"

def writeShares (channels : DeviceChannels) (key : String) (south : South) :
    List (String × ℚ) → Executed
  | [] => ⟨[], .ok ()⟩
  | (deviceId, share) :: rest =>
      let first := writeShare channels key south deviceId share
      match first.result with
      | .ok () =>
          let later := writeShares channels key south rest
          ⟨first.started ++ later.started, later.result⟩
      | .error message => ⟨first.started, .error message⟩

def dispatchDistribute (binding : DistributeBinding) (target : ℚ) (key siteId : String)
    (channels : DeviceChannels) (locked : Finset String) (cache : InputCache) (now : Instant)
    (south : South) : Executed :=
  if (envelopeGuardConfig binding).isSome then ⟨[], .ok ()⟩
  else
    match computeShares binding target siteId cache now locked with
    | .error message => refuse message
    | .ok shares =>
        let written := writeShares channels key south shares
        match written.result with
        | .error message => ⟨written.started, .error message⟩
        | .ok () =>
            if target ≠ 0 ∧ shares.all (fun share => share.2 = 0) = true then
              ⟨written.started, .error s!"no rack could take {target} W; all held at 0 W"⟩
            else written

/-! `power_cap` -/

/-- Half away from zero to a millionth, then up to a whole watt. -/
def wholeWatts (exact : ℚ) : ℚ :=
  let scaled := exact * 1000000
  let rounded : ℤ := if 0 ≤ scaled then ⌊scaled + 1 / 2⌋ else -⌊-scaled + 1 / 2⌋
  (⌈(rounded : ℚ) / 1000000⌉ : ℤ)

def childCaps (binding : PowerCapBinding) (percent : ℚ) : List (String × String × ℚ) :=
  binding.children.map fun c =>
    let exact := max c.minW (min (c.maxW * percent / 100) c.maxW)
    (c.deviceId, "set_" ++ c.target, wholeWatts exact)

def writeOne (channels : DeviceChannels) (south : South) (cap : String × String × ℚ) : Executed :=
  let (deviceId, key, watts) := cap
  match channelOf channels deviceId key with
  | some .redfish => attempt south ⟨deviceId, key, .setpoint watts⟩
  | some _ => refuse s!"power cap child {deviceId}.{key} isn't a Redfish binding"
  | none => refuse s!"power cap child {deviceId}.{key} isn't in the spec"

def failedCap (channels : DeviceChannels) (south : South) (cap : String × String × ℚ) :
    Option String :=
  match (writeOne channels south cap).result with
  | .ok () => none
  | .error message => some (cap.1 ++ "." ++ cap.2.1 ++ ": " ++ message)

def writeCaps (caps : List (String × String × ℚ)) (channels : DeviceChannels)
    (locked : Finset String) (south : South) : Executed :=
  let unlocked := caps.filter fun cap => cap.1 ∉ locked
  let failed := unlocked.filterMap (failedCap channels south)
  let count := failed.length
  let joined := "; ".intercalate failed
  { started := unlocked.flatMap fun cap => (writeOne channels south cap).started
    result := if failed.isEmpty then .ok () else .error s!"{count} cap writes failed: {joined}" }

/-! `execute_setpoint` -/

def bitAction (verb : String) (value : ℚ) : Except String BitAction :=
  if verb = "enable" ∨ verb = "start" then .ok .set
  else if verb = "disable" ∨ verb = "stop" then .ok .clear
  else if verb = "clear" ∨ verb = "reset" then .ok .pulse
  else if verb = "set" then .ok (if value ≠ 0 then .set else .clear)
  else .error s!"verb {verb} doesn't drive a bit"

def verbOf (key : String) : String := String.ofList (key.toList.takeWhile fun c => c ≠ '_')

def protocolName (binding : ProtocolBinding) : String :=
  match binding with
  | .modbusTcp => "modbus_tcp"
  | .snmp => "snmp"
  | .redfish => "redfish"
  | .dnp3Tcp => "dnp3_tcp"
  | .bacnetIp => "bacnet_ip"
  | .bacnetSc => "bacnet_sc"
  | .sunspec _ => "sunspec"
  | .synthetic => "synthetic"
  | .distribute _ => "distribute"
  | .powerCap _ => "power_cap"

def executeSetpoint (binding : ProtocolBinding) (value : ℚ) (deviceId key siteId : String)
    (channels : DeviceChannels) (locked : Finset String) (cache : InputCache) (now : Instant)
    (south : South) : Executed :=
  match binding with
  | .modbusTcp => attempt south ⟨deviceId, key, .setpoint value⟩
  | .redfish => attempt south ⟨deviceId, key, .setpoint value⟩
  | .sunspec (some _) =>
      match bitAction (verbOf key) value with
      | .ok action => attempt south ⟨deviceId, key, .bit action⟩
      | .error message => refuse message
  | .sunspec none => attempt south ⟨deviceId, key, .setpoint value⟩
  | .powerCap p => writeCaps (childCaps p value) channels locked south
  | .distribute d => dispatchDistribute d value key siteId channels locked cache now south
  | other =>
      let name := protocolName other
      refuse s!"unsupported protocol for commands: {name}"

end EmsGateway.Dispatch
