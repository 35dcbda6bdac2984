import EmsGateway.App.SpecSwap
import EmsGateway.Library.Memo

/-!
The HTTP clients that Redfish reads and writes share (`redfish::client::plain_client`,
`https_client`): one without TLS for the whole process, and one for each set of credentials, by its
three paths. Building one can fail; the number tells the clients built apart.
-/

namespace EmsGateway.Redfish

open EmsGateway.App EmsGateway.Library

structure Client where
  pool : ℕ
  identity : Option GatewayCredentials
  deriving DecidableEq, Repr

/-- A call of `fetch_resource` or `write_setpoint`. -/
structure ClientRequest where
  trust : Option DeviceTrust
  creds : Option GatewayCredentials

/-- The credentials a call goes out under. -/
def ClientRequest.identity (request : ClientRequest) : Option GatewayCredentials :=
  match request.trust, request.creds with
  | some (.tlsMutual _), some creds => some creds
  | _, _ => none

/-- The once-cell of the plain client and the map of the others, side by side. -/
def sharedClient : Memo ClientRequest (Option (String × String × String)) Client
    (Except String Unit × ℕ) String where
  key := fun request =>
    request.identity.map fun creds => (creds.caBundlePath, creds.certPath, creds.keyPath)
  make := fun request answer => answer.1.map fun _ => ⟨answer.2, request.identity⟩

theorem identity_of_key {first second : ClientRequest}
    (same : sharedClient.key first = sharedClient.key second) : first.identity = second.identity := by
  have paths : Function.Injective fun creds : GatewayCredentials =>
      (creds.caBundlePath, creds.certPath, creds.keyPath) := by
    rintro ⟨ca, cert, key⟩ ⟨otherCa, otherCert, otherKey⟩ same
    simpa using same
  exact Option.map_injective paths same

/-- Whatever the calls and however they interleave, none goes out under another identity than its
own: a device that asks for mutual TLS is reached with the caller's credentials and every other one
with none. Two calls share a client, and its connections, just when they have the same identity. -/
theorem client_of_own_identity
    (steps : List (Memo.Step ClientRequest (Except String Unit × ℕ))) :
    let s := run sharedClient.step .empty steps
    (∀ answer ∈ s.returned, answer.2.identity = answer.1.identity) ∧
      ∀ first ∈ s.returned, ∀ second ∈ s.returned,
        first.1.identity = second.1.identity ↔ first.2 = second.2 := by
  intro s
  have kept := Memo.kept_run sharedClient steps
  have own : ∀ answer ∈ s.returned, answer.2.identity = answer.1.identity := by
    intro answer member
    obtain ⟨other, _, same, built, made⟩ := kept.madeFor member
    rw [← identity_of_key same]
    cases done : built.1 with
    | error message => simp [sharedClient, done, Except.map] at made
    | ok _ =>
        simp only [sharedClient, done, Except.map, Except.ok.injEq] at made
        rw [← made]
  refine ⟨own, ?_⟩
  intro first one second two
  constructor
  · intro same
    refine kept.agree one two ?_
    unfold sharedClient
    dsimp only
    rw [same]
  · intro same
    rw [← own first one, ← own second two, same]

end EmsGateway.Redfish
