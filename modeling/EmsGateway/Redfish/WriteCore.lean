import EmsGateway.App.SpecSwap
import EmsGateway.Dispatch.CommandCore

/-!
Redfish setpoint writes (`redfish::write`) and the reading taken from a resource
(`redfish::client::extract`). A PATCH goes out once; what the service answers is an input, and
so is `serde_json`'s look-up of a pointer. `json!` makes null of an `f64` that is not finite.
-/

namespace EmsGateway.Redfish

open EmsGateway.App EmsGateway.Dispatch

inductive Json where
  | null
  | bool (value : Bool)
  | number (value : ℚ)
  | string (text : String)
  | array (items : List Json)
  | object (members : List (String × Json))

def Json.asF64 (value : Json) : Option ℚ :=
  match value with
  | .number x => some x
  | _ => none

structure RedfishBinding where
  host : String
  port : BitVec 16
  uri : String
  jsonPointer : Option String
  scale : ℚ := 1
  deriving DecidableEq, Repr

/-! `write` -/

def unescape (token : List Char) : String :=
  String.ofList (replaceFrom "~0".toList "~".toList 0
    (replaceFrom "~1".toList "/".toList 0 token))

def nest (pointer : String) (value : Json) : Json :=
  let tokens := (splitSlash pointer.toList).drop 1
  tokens.reverse.foldl (fun inner token => .object [(unescape token, inner)]) value

/-- `json!(value / scale)` -/
def quotient (value scale : ℚ) : Json :=
  if scale = 0 then .null else .number (value / scale)

structure Patch where
  url : String
  ifMatch : String
  body : Json

structure Service where
  httpsClient : GatewayCredentials → Except String Unit
  plainClient : Except String Unit
  /-- The HTTP status of the answer. -/
  send : Patch → Except String ℕ

inductive WriteError where
  | needsPointer (uri : String)
  | client (message : String)
  | patch (url message : String)
  | refused (url : String) (status : ℕ)
  deriving DecidableEq, Repr

structure Written where
  sent : List Patch
  result : Except WriteError Unit

def clientAndScheme (service : Service) (trust : Option DeviceTrust)
    (creds : Option GatewayCredentials) : Except String String :=
  match trust, creds with
  | some (.tlsMutual _), some creds => (service.httpsClient creds).map fun _ => "https"
  | _, _ => service.plainClient.map fun _ => "http"

def patchAt (b : RedfishBinding) (scheme pointer : String) (value : ℚ) : Patch :=
  { url := s!"{scheme}://{b.host}:{b.port.toNat}/redfish/v1{b.uri}"
    ifMatch := "*"
    body := nest pointer (quotient value b.scale) }

def isSuccess (status : ℕ) : Bool := 200 ≤ status && status < 300

def writeSetpoint (service : Service) (b : RedfishBinding) (value : ℚ)
    (trust : Option DeviceTrust) (creds : Option GatewayCredentials) : Written :=
  match b.jsonPointer with
  | none => ⟨[], .error (.needsPointer b.uri)⟩
  | some pointer =>
      match clientAndScheme service trust creds with
      | .error message => ⟨[], .error (.client message)⟩
      | .ok scheme =>
          let patch := patchAt b scheme pointer value
          match service.send patch with
          | .error message => ⟨[patch], .error (.patch patch.url message)⟩
          | .ok status =>
              if isSuccess status then ⟨[patch], .ok ()⟩
              else ⟨[patch], .error (.refused patch.url status)⟩

/-! `client` -/

inductive Raw where
  | number (value : ℚ)
  | text (text : String)
  deriving DecidableEq, Repr

inductive ExtractError where
  | missed (pointer uri : String)
  | expected (uri : String) (value : Json)

def extract (lookup : Json → String → Option Json) (body : Json) (b : RedfishBinding) :
    Except ExtractError Raw := do
  let value ←
    match b.jsonPointer with
    | some pointer =>
        match lookup body pointer with
        | some value => .ok value
        | none => .error (.missed pointer b.uri)
    | none => .ok body
  match value with
  | .string text => return .text text
  | _ =>
      match value.asF64 with
      | some raw => return .number (raw * b.scale)
      | none => .error (.expected b.uri value)

end EmsGateway.Redfish
