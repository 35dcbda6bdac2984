import EmsGateway.App.SpecSwap
import EmsGateway.Library.Memo

/-!
The sessions that writes go over (`modbus::client::channel`, `write_channel`). They are kept for the
life of the process under host, port and whether the dial is secured; the commands, the heartbeats
and the control loops all ask for them. Whether a TLS configuration can be built, and which socket
the new session got, is what the outside answers.
-/

namespace EmsGateway.Modbus

open EmsGateway.App EmsGateway.Library

/-- Where a session leads and how it was dialled. -/
structure Channel where
  host : String
  port : BitVec 16
  dial : Dial
  deriving DecidableEq, Repr

/-- `modbus::client::channel`: only a TLS dial can fail, on its configuration. -/
def openChannel (host : String) (port : BitVec 16) (trust : Option DeviceTrust)
    (creds : Option GatewayCredentials) (tlsConfig : Except String Unit) :
    Except String Channel :=
  match channel trust creds with
  | .plain => .ok ⟨host, port, .plain⟩
  | .tls subjectName => tlsConfig.map fun _ => ⟨host, port, .tls subjectName⟩

theorem openChannel_ok {host : String} {port : BitVec 16} {trust : Option DeviceTrust}
    {creds : Option GatewayCredentials} {tlsConfig : Except String Unit} {session : Channel}
    (opens : openChannel host port trust creds tlsConfig = .ok session) :
    session = ⟨host, port, channel trust creds⟩ := by
  unfold openChannel at opens
  split at opens
  · rename_i plain
    rw [plain]
    exact (Except.ok.inj opens).symm
  · rename_i subjectName tls
    rw [tls]
    cases tlsConfig with
    | error message => simp [Except.map] at opens
    | ok done => exact (Except.ok.inj opens).symm

/-! `write_channel` -/

structure Dialled where
  host : String
  port : BitVec 16
  trust : Option DeviceTrust

def secure (trust : Option DeviceTrust) (creds : Option GatewayCredentials) : Bool :=
  match trust, creds with
  | some (.tlsMutual _), some _ => true
  | _, _ => false

/-- A session of one socket. -/
structure Session where
  socket : ℕ
  channel : Channel
  deriving DecidableEq, Repr

def writeChannel (creds : Option GatewayCredentials) :
    Memo Dialled (String × BitVec 16 × Bool) Session (Except String Unit × ℕ) String where
  key := fun dialled => (dialled.host, dialled.port, secure dialled.trust creds)
  make := fun dialled answer =>
    (openChannel dialled.host dialled.port dialled.trust creds answer.1).map fun channel =>
      ⟨answer.2, channel⟩

theorem secure_iff {trust : Option DeviceTrust} {creds : Option GatewayCredentials} :
    secure trust creds = true ↔ ∃ subjectName, channel trust creds = .tls subjectName := by
  cases trust with
  | none => simp [secure, channel]
  | some asked =>
      cases asked with
      | tlsMutual subjectName => cases creds <;> simp [secure, channel]
      | snmpv3Usm => simp [secure, channel]

theorem channel_tls {trust : Option DeviceTrust} {creds : Option GatewayCredentials}
    {subjectName : String} (tls : channel trust creds = .tls subjectName) :
    trust = some (.tlsMutual subjectName) := by
  unfold channel at tls
  split at tls
  · obtain rfl := Dial.tls.inj tls
    rfl
  · exact absurd tls (by simp)

theorem madeFor_writeChannel {creds : Option GatewayCredentials}
    {s : Memo.State Dialled (String × BitVec 16 × Bool) Session} {dialled : Dialled}
    {session : Session}
    (made : (writeChannel creds).MadeFor s ((writeChannel creds).key dialled) session) :
    ∃ other ∈ s.asked, other.host = dialled.host ∧ other.port = dialled.port ∧
      secure other.trust creds = secure dialled.trust creds ∧
        session.channel = ⟨other.host, other.port, channel other.trust creds⟩ := by
  obtain ⟨other, asked, same, answer, made⟩ := made
  obtain ⟨host, ends⟩ := Prod.mk.inj same
  obtain ⟨port, security⟩ := Prod.mk.inj ends
  refine ⟨other, asked, host, port, security, ?_⟩
  cases opens : openChannel other.host other.port other.trust creds answer.1 with
  | error message => simp [writeChannel, opens, Except.map] at made
  | ok opened =>
      simp only [writeChannel, opens, Except.map, Except.ok.injEq] at made
      rw [← made, openChannel_ok opens]

/-- However the writers' calls interleave, all that write to one endpoint with the same security get
one session for good. It leads to their own host and port and is TLS just when the device asks for
it and the gateway has credentials; the subject it checks is one that a device there was dialled
with. -/
theorem one_write_session_per_endpoint (creds : Option GatewayCredentials)
    (steps : List (Memo.Step Dialled (Except String Unit × ℕ))) :
    let s := run (writeChannel creds).step .empty steps
    (∀ first ∈ s.returned, ∀ second ∈ s.returned, first.1.host = second.1.host →
        first.1.port = second.1.port →
          secure first.1.trust creds = secure second.1.trust creds → first.2 = second.2) ∧
      ∀ answer ∈ s.returned, answer.2.channel.host = answer.1.host ∧
        answer.2.channel.port = answer.1.port ∧
        ((∃ subjectName, answer.2.channel.dial = .tls subjectName) ↔
          secure answer.1.trust creds = true) ∧
        ∀ subjectName, answer.2.channel.dial = .tls subjectName →
          ∃ other ∈ s.asked, other.host = answer.1.host ∧ other.port = answer.1.port ∧
            other.trust = some (.tlsMutual subjectName) := by
  intro s
  have kept := Memo.kept_run (writeChannel creds) steps
  refine ⟨?_, ?_⟩
  · intro first one second two host port security
    refine kept.agree one two ?_
    unfold writeChannel
    dsimp only
    rw [host, port, security]
  · intro answer member
    obtain ⟨other, asked, host, port, security, session⟩ :=
      madeFor_writeChannel (kept.madeFor member)
    rw [session]
    refine ⟨host, port, ?_, ?_⟩
    · rw [← security]
      exact secure_iff.symm
    · intro subjectName tls
      exact ⟨other, asked, host, port, channel_tls tls⟩

end EmsGateway.Modbus
