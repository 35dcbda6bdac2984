import EmsGateway.Modbus.CodecCore
import EmsGateway.Modbus.WriteSessions
import EmsGateway.Samples.PayloadCore
import EmsGateway.Sunspec.PointsCore

/-!
The poller of one device (`poller`). `run_device` sleeps until the earliest reading is due and then
reads every reading that is due at that moment, one after the other (`poll_due`). `PollLoop.wake` is
the start of such a tick and `PollLoop.read` one turn of its loop; what the device and the broker
answer, and when a turn ends, are inputs. `log` holds the turns taken, the newest first.
-/

namespace EmsGateway.Poller

open EmsGateway.App EmsGateway.Samples EmsGateway.Redfish
open EmsGateway.Library (roundHalfEven)
open EmsGateway.Modbus (Channel)

inductive PointBinding where
  | redfish (b : RedfishBinding)
  | modbusTcp (host : String) (port : BitVec 16) (b : Modbus.ModbusTcpBinding)
  | sunspec (host : String) (port : BitVec 16) (b : Sunspec.SunspecBinding)
  /-- Any protocol that is read without a shared session. -/
  | other (protocol : String)

structure Point where
  topic : String
  binding : PointBinding
  period : Duration
  payload : Option Payload
  valueMap : Option ValueMap

/-- `lookup` is `serde_json`'s look-up of a pointer. -/
structure DevicePoller where
  points : List Point
  trust : Option DeviceTrust
  creds : Option GatewayCredentials
  formats : Formats
  lookup : Json → String → Option Json

/-! `app::clamp_poll_rate` and the period `spawn_task_set` makes of a rate -/

def minPollHz : ℚ := 1 / 100

def maxPollHz : ℚ := 10

def defaultPollHz : ℚ := 1

def clampPollRate (value : Option ℚ) : ℚ :=
  let raw := value.getD defaultPollHz
  if raw < minPollHz then minPollHz else if maxPollHz < raw then maxPollHz else raw

/-- `Duration::from_secs_f64` of the inverse, to the nearest nanosecond. -/
def pollPeriod (pollRate : ℚ) : Duration :=
  (roundHalfEven (1 / pollRate * nanosPerSec)).toNat

def DevicePoller.Spawned (device : DevicePoller) : Prop :=
  ∀ point ∈ device.points, ∃ value, point.period = pollPeriod (clampPollRate value)

/-! `poller` -/

inductive Call where
  | fetchResource (url : String) (answer : Except String Json)
  | openChannel (channel : Channel)
  | readOn (channel : Channel)
  | readValue

inductive ReadError where
  | failed (message : String)
  | extract (e : ExtractError)

structure Turn where
  tick : ℕ
  point : ℕ
  started : Instant
  finished : Instant
  calls : List Call
  read : Except ReadError Raw
  published : Option Json

/-- What the outside answers in one turn, if it is asked. -/
structure Answers where
  resource : Except String Json
  tlsConfig : Except String Unit
  session : Except String ℚ
  value : Except String Raw
  ts : String
  brokerAccepts : Bool

structure PollLoop where
  next : List Instant
  sessions : String → Option Channel
  fetched : String → Option (Except String Json)
  pending : List ℕ
  tick : ℕ
  clock : Instant
  log : List Turn

def due (next : List Instant) (now : Instant) : List ℕ :=
  (List.range next.length).filter fun i => decide (next.getD i 0 ≤ now)

def advance (dueAt : Instant) (period : Duration) (now : Instant) : Instant :=
  let onSchedule := dueAt + period
  if onSchedule ≤ now then now + period else onSchedule

def resourceKey (b : RedfishBinding) : String := s!"{b.host}:{b.port.toNat}{b.uri}"

def sessionKey (host : String) (port : BitVec 16) : String := s!"{host}:{port.toNat}"

/-- The branch of `fetch_resource` that picks its client picks the scheme with it. -/
def scheme (trust : Option DeviceTrust) (creds : Option GatewayCredentials) : String :=
  match trust, creds with
  | some (.tlsMutual _), some _ => "https"
  | _, _ => "http"

/-- The URL that `fetch_resource` gets. -/
def resourceUrl (trust : Option DeviceTrust) (creds : Option GatewayCredentials)
    (b : RedfishBinding) : String :=
  let scheme := scheme trust creds
  s!"{scheme}://{b.host}:{b.port.toNat}/redfish/v1{b.uri}"

structure Reading where
  sessions : String → Option Channel
  fetched : String → Option (Except String Json)
  calls : List Call
  read : Except ReadError Raw

def extractFrom (device : DevicePoller) (b : RedfishBinding) (body : Except String Json) :
    Except ReadError Raw :=
  match body with
  | .ok body => (extract device.lookup body b).mapError .extract
  | .error message => .error (.failed message)

def readResource (device : DevicePoller) (s : PollLoop) (b : RedfishBinding) (answers : Answers) :
    Reading :=
  match s.fetched (resourceKey b) with
  | some body => ⟨s.sessions, s.fetched, [], extractFrom device b body⟩
  | none =>
      ⟨s.sessions, Function.update s.fetched (resourceKey b) (some answers.resource),
        [.fetchResource (resourceUrl device.trust device.creds b) answers.resource],
        extractFrom device b answers.resource⟩

def readSession (device : DevicePoller) (s : PollLoop) (host : String) (port : BitVec 16)
    (answers : Answers) : Reading :=
  let answered := (answers.session.map Raw.number).mapError ReadError.failed
  match s.sessions (sessionKey host port) with
  | some session => ⟨s.sessions, s.fetched, [.readOn session], answered⟩
  | none =>
      match Modbus.openChannel host port device.trust device.creds answers.tlsConfig with
      | .error message => ⟨s.sessions, s.fetched, [], .error (.failed message)⟩
      | .ok session =>
          ⟨Function.update s.sessions (sessionKey host port) (some session), s.fetched,
            [.openChannel session, .readOn session], answered⟩

def readPoint (device : DevicePoller) (s : PollLoop) (binding : PointBinding) (answers : Answers) :
    Reading :=
  match binding with
  | .redfish b => readResource device s b answers
  | .modbusTcp host port _ => readSession device s host port answers
  | .sunspec host port _ => readSession device s host port answers
  | .other _ =>
      ⟨s.sessions, s.fetched, [.readValue], answers.value.mapError ReadError.failed⟩

def publishRead (device : DevicePoller) (point : Point) (read : Except ReadError Raw)
    (answers : Answers) : Option Json :=
  match read with
  | .ok raw =>
      match publish device.formats point.payload raw point.valueMap answers.ts with
      | .ok sample => if answers.brokerAccepts then some sample else none
      | .error _ => none
  | .error _ => none

namespace PollLoop

def start (device : DevicePoller) (now : Instant) : PollLoop where
  next := List.replicate device.points.length now
  sessions := fun _ => none
  fetched := fun _ => none
  pending := []
  tick := 0
  clock := now
  log := []

inductive Step where
  | wake (now : Instant)
  | read (answers : Answers) (now : Instant)

def wake (s : PollLoop) (now : Instant) : PollLoop :=
  { s with fetched := fun _ => none, pending := due s.next now, tick := s.tick + 1, clock := now }

def turn (device : DevicePoller) (s : PollLoop) (i : ℕ) (point : Point) (answers : Answers)
    (now : Instant) : Turn :=
  let reading := readPoint device s point.binding answers
  { tick := s.tick
    point := i
    started := s.clock
    finished := now
    calls := reading.calls
    read := reading.read
    published := publishRead device point reading.read answers }

def read (device : DevicePoller) (s : PollLoop) (i : ℕ) (rest : List ℕ) (point : Point)
    (answers : Answers) (now : Instant) : PollLoop :=
  let reading := readPoint device s point.binding answers
  { next := s.next.modify i fun dueAt => advance dueAt point.period now
    sessions := reading.sessions
    fetched := reading.fetched
    pending := rest
    tick := s.tick
    clock := now
    log := s.turn device i point answers now :: s.log }

/-- A tick starts only once the one before is through. -/
def step (device : DevicePoller) (s : PollLoop) (step : Step) : PollLoop :=
  match step, s.pending with
  | .wake now, [] => s.wake now
  | .read answers now, i :: rest =>
      match device.points[i]? with
      | some point => s.read device i rest point answers now
      | none => s
  | _, _ => s

end PollLoop

end EmsGateway.Poller
