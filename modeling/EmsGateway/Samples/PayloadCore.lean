import EmsGateway.Inputs
import EmsGateway.Redfish.WriteCore

/-!
From a reading to the sample that is published and back into the cache: `payload`, the two
publishers (`poller::publish`, `mqtt::publisher`) and `mqtt::subscriber::cache_sample`. Whether a
sample fits its schema is the validator's answer, and how an `f64` that is not whole prints is
`display`; a payload is what parsing it gave.
-/

namespace EmsGateway.Samples

open EmsGateway.Redfish

/-- The last member of the name, as `serde_json` keeps it. -/
def member (value : Json) (name : String) : Option Json :=
  match value with
  | .object members => (members.reverse.find? fun entry => entry.1 = name).map Prod.snd
  | _ => none

def asStr (value : Json) : Option String :=
  match value with
  | .string text => some text
  | _ => none

/-! `payload` -/

inductive Kind where
  | number
  | boolean
  | label
  deriving DecidableEq, Repr

structure Payload where
  kind : Kind
  schema : Json

inductive PayloadError where
  | noValue (found : Option String)
  | invalidSchema (message : String)
  | notARef (payload : Json)
  | notIntoSchemas (target : String)
  | noSchema (target : String)
  | noLabel (key : String)
  | mismatch (raw : Raw) (kind : Kind)
  | doesntFit (sample : Json) (message : String)
  | textWithoutSchema (text : String)

/-- `jsonschema`, and how `f64` prints. -/
structure Formats where
  compiles : Json → Except String Unit
  validates : Json → Json → Except String Unit
  display : ℚ → String

def compile (formats : Formats) (schema : Json) : Except PayloadError Payload :=
  let found := (((member schema "properties").bind fun p => member p "value").bind fun v =>
    member v "type").bind asStr
  let kind : Except PayloadError Kind :=
    if found = some "number" ∨ found = some "integer" then .ok .number
    else if found = some "boolean" then .ok .boolean
    else if found = some "string" then .ok .label
    else .error (.noValue found)
  match kind with
  | .error e => .error e
  | .ok kind =>
      match formats.compiles schema with
      | .ok () => .ok ⟨kind, schema⟩
      | .error message => .error (.invalidSchema message)

/-- `as i64`: saturating. -/
def asI64 (n : ℚ) : ℤ := max (-2 ^ 63) (min ⌊n⌋ (2 ^ 63 - 1))

/-- Register codes are keyed as written: 2, not 2.0. -/
def labelKey (formats : Formats) (raw : Raw) : String :=
  match raw with
  | .text text => text
  | .number n => if Int.fract n = 0 then toString (asI64 n) else formats.display n

abbrev ValueMap := String → Option String

def Payload.value (formats : Formats) (payload : Payload) (raw : Raw)
    (valueMap : Option ValueMap) : Except PayloadError Json :=
  match payload.kind, raw with
  | .number, .number n => .ok (.number n)
  | .boolean, .number n => .ok (.bool (n ≠ 0))
  | .label, raw =>
      let key := labelKey formats raw
      match valueMap.bind fun labels => labels key with
      | some label => .ok (.string label)
      | none => .error (.noLabel key)
  | kind, raw => .error (.mismatch raw kind)

def Payload.sample (formats : Formats) (payload : Payload) (raw : Raw)
    (valueMap : Option ValueMap) (ts : String) : Except PayloadError Json := do
  let value ← payload.value formats raw valueMap
  let sample := Json.object [("ts", .string ts), ("value", value)]
  match formats.validates payload.schema sample with
  | .ok () => return sample
  | .error message => .error (.doesntFit sample message)

def schemasPrefix : String := "#/components/schemas/"

def resolve (formats : Formats) (reference : Json) (schemas : String → Option Json) :
    Except PayloadError Payload :=
  match (member reference "$ref").bind asStr with
  | none => .error (.notARef reference)
  | some target =>
      if schemasPrefix.toList.isPrefixOf target.toList then
        let name := String.ofList (target.toList.drop schemasPrefix.length)
        match schemas name with
        | some schema => compile formats schema
        | none => .error (.noSchema target)
      else .error (.notIntoSchemas target)

/-! Publishing -/

def publishMeasurement (value : ℚ) (ts : String) : Json :=
  .object [("ts", .string ts), ("value", .number value)]

/-- What `poller::publish` puts on the wire for a reading. -/
def publish (formats : Formats) (payload : Option Payload) (raw : Raw)
    (valueMap : Option ValueMap) (ts : String) : Except PayloadError Json :=
  match payload, raw with
  | some payload, raw => payload.sample formats raw valueMap ts
  | none, .number n => .ok (publishMeasurement n ts)
  | none, .text text => .error (.textWithoutSchema text)

/-! `subscriber` -/

end EmsGateway.Samples
