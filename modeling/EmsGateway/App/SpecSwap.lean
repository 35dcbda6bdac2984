import EmsGateway.Asyncapi.CommandSource
import EmsGateway.Library.Runs

/-!
A reconcile against the command that is being handled. `app::run` replaces `devices.channels` and
then `devices.trust`, each under its own write lock, while the subscriber takes the two read locks
one after the other and keeps both until the command is done. A write waits for the readers of its
own map only, so a command can come in between the two. A device's trust decides how it is dialled
(`modbus::client::channel`, `redfish::write`).
-/

namespace EmsGateway.App

open EmsGateway.Asyncapi EmsGateway.Library

/-- SNMP's USM material concerns no command's dial. -/
inductive DeviceTrust where
  | tlsMutual (subjectName : String)
  | snmpv3Usm
  deriving DecidableEq, Repr

abbrev TrustMap := String → Option DeviceTrust

structure GatewayCredentials where
  caBundlePath : String
  certPath : String
  keyPath : String
  deriving DecidableEq, Repr

/-- The two blocks of a spec that the device maps are made from, in the order in which the source's
maps happen to iterate over them. -/
structure AsyncApiSpec where
  commandSource : CommandSources
  deviceTrust : List (String × DeviceTrust)

def AsyncApiSpec.channels (spec : AsyncApiSpec) : DeviceChannels :=
  deviceChannels spec.commandSource

def AsyncApiSpec.trust (spec : AsyncApiSpec) : TrustMap :=
  applyWrites (fun _ => none) spec.deviceTrust

def DeviceTrust.isTlsMutual (trust : DeviceTrust) : Bool :=
  match trust with
  | .tlsMutual _ => true
  | .snmpv3Usm => false

def validateTrustCredsAlignment (spec : AsyncApiSpec) (creds : Option GatewayCredentials) :
    Except String Unit :=
  match creds, spec.deviceTrust.find? fun entry => entry.2.isTlsMutual with
  | some _, _ => .ok ()
  | none, none => .ok ()
  | none, some (deviceId, _) =>
      .error (s!"device {deviceId} requires tls_mutual but gateway_credentials is unset; " ++
        "mount the CA bundle + gateway cert/key and set cfg.gateway_credentials")

inductive Dial where
  | tls (subjectName : String)
  | plain
  deriving DecidableEq, Repr

def channel (trust : Option DeviceTrust) (creds : Option GatewayCredentials) : Dial :=
  match trust, creds with
  | some (.tlsMutual subjectName), some _ => .tls subjectName
  | _, _ => .plain

/-! The two tasks -/

inductive Reconcile where
  | waiting
  | accepted (spec : AsyncApiSpec)
  | channelsWritten (spec : AsyncApiSpec)

inductive Command where
  | waiting
  | holdsChannels (channels : DeviceChannels)
  | executes (channels : DeviceChannels) (trust : TrustMap)

/-- `specs` collects every spec accepted up to now, the one of the boot included. -/
structure Devices where
  channels : DeviceChannels
  trust : TrustMap
  reconcile : Reconcile
  command : Command
  specs : List AsyncApiSpec

def Devices.boot (spec : AsyncApiSpec) : Devices :=
  ⟨spec.channels, spec.trust, .waiting, .waiting, [spec]⟩

inductive Step where
  | fetch (spec : AsyncApiSpec)
  | writeChannels
  | writeTrust
  | takeChannels
  | takeTrust
  | finish

/-- A step that is not due, or whose lock is taken, changes nothing. -/
def step (creds : Option GatewayCredentials) (d : Devices) (s : Step) : Devices :=
  match s, d.reconcile, d.command with
  | .fetch spec, .waiting, _ =>
      match validateTrustCredsAlignment spec creds with
      | .ok () => { d with reconcile := .accepted spec, specs := spec :: d.specs }
      | .error _ => d
  | .writeChannels, .accepted spec, .waiting =>
      { d with channels := spec.channels, reconcile := .channelsWritten spec }
  | .writeTrust, .channelsWritten spec, .waiting =>
      { d with trust := spec.trust, reconcile := .waiting }
  | .writeTrust, .channelsWritten spec, .holdsChannels _ =>
      { d with trust := spec.trust, reconcile := .waiting }
  | .takeChannels, _, .waiting => { d with command := .holdsChannels d.channels }
  | .takeTrust, _, .holdsChannels channels => { d with command := .executes channels d.trust }
  | .finish, _, .executes _ _ => { d with command := .waiting }
  | _, _, _ => d

/-- The maps a command is executed with are those of one accepted spec, and every device for which
that spec asks for mutual TLS is dialled that way. -/
def Unmixed (creds : Option GatewayCredentials) (d : Devices) : Prop :=
  ∀ channels trust, d.command = .executes channels trust →
    ∃ spec ∈ d.specs, channels = spec.channels ∧ trust = spec.trust ∧
      ∀ deviceId subjectName, spec.trust deviceId = some (.tlsMutual subjectName) →
        channel (trust deviceId) creds = .tls subjectName

/-- No command takes the trust map between a reconcile's two writes, unless the new spec leaves that
map as it is. -/
def TakesTrustWhole (d : Devices) (s : Step) : Prop :=
  s = .takeTrust → ∀ spec, d.reconcile = .channelsWritten spec → spec.trust = d.trust

structure Invariant (creds : Option GatewayCredentials) (d : Devices) : Prop where
  aligned : ∀ spec ∈ d.specs, validateTrustCredsAlignment spec creds = .ok ()
  whole : (∀ spec, d.reconcile ≠ .channelsWritten spec) →
    ∃ spec ∈ d.specs, d.channels = spec.channels ∧ d.trust = spec.trust
  pending : ∀ spec, d.reconcile = .accepted spec → spec ∈ d.specs
  between : ∀ spec, d.reconcile = .channelsWritten spec →
    spec ∈ d.specs ∧ d.channels = spec.channels
  held : ∀ channels, d.command = .holdsChannels channels → channels = d.channels
  executed : ∀ channels trust, d.command = .executes channels trust →
    ∃ spec ∈ d.specs, channels = spec.channels ∧ trust = spec.trust

section Steps

variable {creds : Option GatewayCredentials} {d : Devices}

theorem Invariant.boot {spec : AsyncApiSpec}
    (aligned : validateTrustCredsAlignment spec creds = .ok ()) :
    Invariant creds (.boot spec) := by
  refine ⟨?_, ?_, ?_, ?_, ?_, ?_⟩
  · intro other member
    rw [List.mem_singleton.mp member]
    exact aligned
  · intro _
    exact ⟨spec, List.mem_singleton_self spec, rfl, rfl⟩
  · rintro _ ⟨⟩
  · rintro _ ⟨⟩
  · rintro _ ⟨⟩
  · rintro _ _ ⟨⟩

theorem Invariant.fetch (inv : Invariant creds d) (waits : d.reconcile = .waiting)
    {spec : AsyncApiSpec} (aligned : validateTrustCredsAlignment spec creds = .ok ()) :
    Invariant creds { d with reconcile := .accepted spec, specs := spec :: d.specs } := by
  refine ⟨?_, ?_, ?_, ?_, inv.held, ?_⟩
  · intro other member
    rcases List.mem_cons.mp member with rfl | earlier
    · exact aligned
    · exact inv.aligned other earlier
  · intro _
    obtain ⟨current, member, same⟩ := inv.whole (by simp [waits])
    exact ⟨current, List.mem_cons_of_mem _ member, same⟩
  · rintro _ ⟨⟩
    exact List.mem_cons_self
  · rintro _ ⟨⟩
  · intro channels trust executes
    obtain ⟨current, member, same⟩ := inv.executed channels trust executes
    exact ⟨current, List.mem_cons_of_mem _ member, same⟩

theorem Invariant.writeChannels (inv : Invariant creds d) {spec : AsyncApiSpec}
    (accepts : d.reconcile = .accepted spec) (free : d.command = .waiting) :
    Invariant creds { d with channels := spec.channels, reconcile := .channelsWritten spec } := by
  refine ⟨inv.aligned, ?_, ?_, ?_, ?_, inv.executed⟩
  · intro settled
    exact absurd rfl (settled spec)
  · rintro _ ⟨⟩
  · rintro _ ⟨⟩
    exact ⟨inv.pending spec accepts, rfl⟩
  · intro channels holds
    rw [free] at holds
    exact absurd holds (by simp)

theorem Invariant.writeTrust (inv : Invariant creds d) {spec : AsyncApiSpec}
    (written : d.reconcile = .channelsWritten spec) :
    Invariant creds { d with trust := spec.trust, reconcile := .waiting } := by
  obtain ⟨member, channels⟩ := inv.between spec written
  refine ⟨inv.aligned, ?_, ?_, ?_, inv.held, inv.executed⟩
  · intro _
    exact ⟨spec, member, channels, rfl⟩
  · rintro _ ⟨⟩
  · rintro _ ⟨⟩

theorem Invariant.takeTrust (inv : Invariant creds d) {channels : DeviceChannels}
    (holds : d.command = .holdsChannels channels)
    (takes : ∀ spec, d.reconcile = .channelsWritten spec → spec.trust = d.trust) :
    Invariant creds { d with command := .executes channels d.trust } := by
  refine ⟨inv.aligned, inv.whole, inv.pending, inv.between, ?_, ?_⟩
  · rintro _ ⟨⟩
  · rintro _ _ ⟨⟩
    rw [inv.held channels holds]
    by_cases between : ∃ spec, d.reconcile = .channelsWritten spec
    · obtain ⟨spec, written⟩ := between
      obtain ⟨member, same⟩ := inv.between spec written
      exact ⟨spec, member, same, (takes spec written).symm⟩
    · exact inv.whole fun spec written => between ⟨spec, written⟩

theorem Invariant.step (inv : Invariant creds d) {s : Step} (takes : TakesTrustWhole d s) :
    Invariant creds (step creds d s) := by
  unfold App.step
  split
  · rename_i spec waits
    split
    · rename_i aligned
      exact inv.fetch waits aligned
    · exact inv
  · rename_i spec accepts free
    exact inv.writeChannels accepts free
  · rename_i spec written _
    exact inv.writeTrust written
  · rename_i spec _ written _
    exact inv.writeTrust written
  · exact ⟨inv.aligned, inv.whole, inv.pending, inv.between,
      by rintro _ ⟨⟩; rfl, by rintro _ _ ⟨⟩⟩
  · rename_i holds
    exact inv.takeTrust holds (takes rfl)
  · exact ⟨inv.aligned, inv.whole, inv.pending, inv.between,
      by rintro _ ⟨⟩, by rintro _ _ ⟨⟩⟩
  · exact inv

theorem channel_of_aligned {spec : AsyncApiSpec}
    (aligned : validateTrustCredsAlignment spec creds = .ok ()) {deviceId subjectName : String}
    (requires : spec.trust deviceId = some (.tlsMutual subjectName)) :
    channel (some (.tlsMutual subjectName)) creds = .tls subjectName := by
  cases creds with
  | some material => rfl
  | none =>
      have listed : (deviceId, .tlsMutual subjectName) ∈ spec.deviceTrust :=
        (applyWrites_found requires).resolve_left (by simp)
      have offender : (spec.deviceTrust.find? fun entry => entry.2.isTlsMutual).isSome = true :=
        List.find?_isSome.mpr ⟨_, listed, rfl⟩
      obtain ⟨⟨other, trust⟩, found⟩ := Option.isSome_iff_exists.mp offender
      simp [validateTrustCredsAlignment, found] at aligned

theorem Invariant.unmixed (inv : Invariant creds d) : Unmixed creds d := by
  intro channels trust executes
  obtain ⟨spec, member, bindings, same⟩ := inv.executed channels trust executes
  refine ⟨spec, member, bindings, same, ?_⟩
  intro deviceId subjectName requires
  rw [same, requires]
  exact channel_of_aligned (inv.aligned spec member) requires

end Steps

theorem command_unmixed {creds : Option GatewayCredentials} {spec : AsyncApiSpec}
    (aligned : validateTrustCredsAlignment spec creds = .ok ()) {steps : List Step}
    (whole : Along (step creds) TakesTrustWhole (.boot spec) steps) :
    Unmixed creds (run (step creds) (.boot spec) steps) :=
  (run_invariant (Invariant creds) (fun _ _ inv takes => inv.step takes) (.boot aligned)
    whole).unmixed

def material : GatewayCredentials := ⟨"ca.pem", "gateway.pem", "gateway.key"⟩

/-- One rack, commanded over the given protocol. -/
def rackSpec (binding : ProtocolBinding) (trust : List (String × DeviceTrust)) : AsyncApiSpec where
  commandSource := fun deviceId =>
    if deviceId = "rack-1" then
      some [("set_active_power_watts", ⟨"set", "active_power", "watts", binding⟩)]
    else none
  deviceTrust := trust

def plainSpec : AsyncApiSpec := rackSpec .modbusTcp []

def securedSpec : AsyncApiSpec := rackSpec .redfish [("rack-1", .tlsMutual "rack-1.site")]

theorem command_unmixed_after_both_writes :
    Along (step (some material)) TakesTrustWhole (.boot plainSpec)
        [.fetch securedSpec, .writeChannels, .takeChannels, .writeTrust, .takeTrust] ∧
      Unmixed (some material) (run (step (some material)) (.boot plainSpec)
        [.fetch securedSpec, .writeChannels, .takeChannels, .writeTrust, .takeTrust]) := by
  have whole : Along (step (some material)) TakesTrustWhole (.boot plainSpec)
      [.fetch securedSpec, .writeChannels, .takeChannels, .writeTrust, .takeTrust] := by
    refine ⟨?_, ?_, ?_, ?_, ?_, trivial⟩
    · rintro ⟨⟩
    · rintro ⟨⟩
    · rintro ⟨⟩
    · rintro ⟨⟩
    · rintro _ _ ⟨⟩
  exact ⟨whole, command_unmixed rfl whole⟩

/-- The new bindings with the old trust map: a device that now requires mutual TLS is dialled in
plain text. -/
theorem command_mixes_specs :
    ¬Unmixed (some material) (run (step (some material)) (.boot plainSpec)
        [.fetch securedSpec, .writeChannels, .takeChannels, .takeTrust]) ∧
      securedSpec.trust "rack-1" = some (.tlsMutual "rack-1.site") ∧
      channel (plainSpec.trust "rack-1") (some material) = .plain := by
  have trusts : plainSpec.trust "rack-1" ≠ securedSpec.trust "rack-1" := by decide
  have bindings : (securedSpec.channels "rack-1").bind (· "set_active_power") ≠
      (plainSpec.channels "rack-1").bind (· "set_active_power") := by decide
  refine ⟨?_, rfl, rfl⟩
  intro unmixed
  obtain ⟨spec, member, channels, trust, _⟩ := unmixed securedSpec.channels plainSpec.trust rfl
  have listed : spec = securedSpec ∨ spec = plainSpec := by
    simpa using (show spec ∈ [securedSpec, plainSpec] from member)
  rcases listed with rfl | rfl
  · exact trusts (congrFun trust "rack-1")
  · exact bindings (by rw [channels])

end EmsGateway.App
