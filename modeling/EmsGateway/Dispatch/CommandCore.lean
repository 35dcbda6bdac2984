import EmsGateway.Dispatch.ExecuteCore

/-!
The command handler: `dispatch::topic`, `dispatch::requested` and `handle_command`. The last
requested setpoints are one map over (device, `{verb}_{target}`). `handle_command` is cut where
it waits for the south-side write: `beginCommand` ends with the request recorded, and
`finishCommand` acks the write or takes the request back. `accepts` is the broker's answer to
each publish; a payload is what parsing it gave.
-/

namespace EmsGateway.Dispatch

open EmsGateway.Asyncapi

/-! `topic` -/

def splitSlash : List Char → List (List Char)
  | [] => [[]]
  | c :: rest =>
      if c = '/' then [] :: splitSlash rest
      else
        match splitSlash rest with
        | first :: others => (c :: first) :: others
        | [] => [[c]]

structure CommandTopic where
  deviceId : String
  verb : String
  target : String
  deriving DecidableEq, Repr

def parseCommandTopic (topic siteId : String) : Option CommandTopic :=
  match (splitSlash topic.toList).map String.ofList with
  | sites :: site :: devices :: deviceId :: commands :: verb :: target :: _ =>
      if sites = "sites" ∧ site = siteId ∧ devices = "devices" ∧ deviceId ≠ "" ∧
          commands = "commands" ∧ verb ≠ "" ∧ target ≠ "" then
        some ⟨deviceId, verb, target⟩
      else none
  | _ => none

example : parseCommandTopic "sites/s1/devices/m/commands/set/active_power/watts" "s1" =
    some ⟨"m", "set", "active_power"⟩ := by decide +kernel

/-! `requested` -/

abbrev Requested := String × String → Option ℚ

def record (requested : Requested) (deviceId key : String) (value : ℚ) : Requested × Option ℚ :=
  (Function.update requested (deviceId, key) (some value), requested (deviceId, key))

/-- Puts `previous` back unless a newer command has replaced `value` since. -/
def restore (requested : Requested) (deviceId key : String) (value : ℚ) (previous : Option ℚ) :
    Requested :=
  if requested (deviceId, key) ≠ some value then requested
  else Function.update requested (deviceId, key) previous

/-! `handle_command` -/

structure CommandFrame where
  value : ℚ
  commandId : String
  deriving DecidableEq, Repr

inductive Phase where
  | received
  | done
  | failed
  deriving DecidableEq, Repr

structure DispatchEvent where
  topic : String
  commandId : String
  phase : Phase
  reason : Option String
  deriving DecidableEq, Repr

def eventTopic (siteId deviceId : String) : String :=
  s!"sites/{siteId}/devices/{deviceId}/events/dispatch_state"

abbrev Broker := DispatchEvent → Bool

def publishEvent (accepts : Broker) (event : DispatchEvent) : Except String Unit :=
  if accepts event then .ok ()
  else
    let topic := event.topic
    .error s!"publish dispatch event to {topic}"

structure CommandEnv where
  siteId : String
  channels : DeviceChannels
  locked : Finset String

structure Pending where
  env : CommandEnv
  deviceId : String
  channelKey : String
  commandId : String
  binding : ProtocolBinding
  value : ℚ
  previous : Option ℚ

def Pending.event (pending : Pending) (phase : Phase) (reason : Option String) : DispatchEvent :=
  ⟨eventTopic pending.env.siteId pending.deviceId, pending.commandId, phase, reason⟩

inductive Begun where
  | settled (result : Except String Unit)
  | writing (pending : Pending)

/-- Up to the write. An unexpected topic, another service's device and an unparseable frame are
dropped; a locked device and an unknown command are acked as failed. -/
def beginCommand (env : CommandEnv) (accepts : Broker) (requested : Requested) (topic : String)
    (frame : Option CommandFrame) : Requested × Begun :=
  match parseCommandTopic topic env.siteId with
  | none => (requested, .settled (.ok ()))
  | some command =>
      match env.channels command.deviceId, frame with
      | none, _ => (requested, .settled (.ok ()))
      | some _, none => (requested, .settled (.ok ()))
      | some commands, some frame =>
          let deviceId := command.deviceId
          let event := fun phase reason =>
            (⟨eventTopic env.siteId deviceId, frame.commandId, phase, reason⟩ : DispatchEvent)
          match publishEvent accepts (event .received none) with
          | .error message => (requested, .settled (.error message))
          | .ok () =>
              let channelKey := command.verb ++ "_" ++ command.target
              let reject := fun reason =>
                (requested, Begun.settled (publishEvent accepts (event .failed (some reason))))
              if deviceId ∈ env.locked then reject s!"device {deviceId} is locked out"
              else
                match commands channelKey with
                | none => reject s!"unknown command {channelKey} for device {deviceId}"
                | some binding =>
                    let recorded := record requested deviceId channelKey frame.value
                    (recorded.1, .writing {
                      env := env
                      deviceId := deviceId
                      channelKey := channelKey
                      commandId := frame.commandId
                      binding := binding
                      value := frame.value
                      previous := recorded.2 })

def Pending.execute (pending : Pending) (cache : InputCache) (now : Instant) (south : South) :
    Executed :=
  executeSetpoint pending.binding pending.value pending.deviceId pending.channelKey
    pending.env.siteId pending.env.channels pending.env.locked cache now south

def finishCommand (accepts : Broker) (requested : Requested) (pending : Pending)
    (written : Except String Unit) : Requested × Except String Unit :=
  match written with
  | .ok () => (requested, publishEvent accepts (pending.event .done none))
  | .error message =>
      (restore requested pending.deviceId pending.channelKey pending.value pending.previous,
        publishEvent accepts (pending.event .failed (some message)))

def handleCommand (env : CommandEnv) (accepts : Broker) (cache : InputCache) (now : Instant)
    (south : South) (requested : Requested) (topic : String) (frame : Option CommandFrame) :
    Requested × Except String Unit :=
  match beginCommand env accepts requested topic frame with
  | (recorded, .settled result) => (recorded, result)
  | (recorded, .writing pending) =>
      finishCommand accepts recorded pending (pending.execute cache now south).result

end EmsGateway.Dispatch
