import EmsGateway.Modbus.CodecCore

/-!
Model discovery (`sunspec::discover`): find the `SunS` marker, then walk the model chain, each model
an ID/L header and then L registers, to the `0xFFFF` end marker. A device is what it answers to a
read of two registers. `u16` addition wraps around, as in the release build the gateway ships; the
debug build panics there instead.
-/

namespace EmsGateway.Sunspec

open EmsGateway.Modbus

abbrev Address := BitVec 16

/-- Model id to the address of its first point. -/
abbrev ModelMap := BitVec 16 → Option Address

inductive ReadError where
  | exception (message : String)
  | link (message : String)
  deriving DecidableEq, Repr

abbrev ReadPair := Address → Except ReadError (Register × Register)

def marker : Register × Register := (0x5375, 0x6e53)

def bases : List Address := [40000, 0, 50000]

def endId : Register := 0xFFFF

def checkedAdd (a b : BitVec 16) : Option (BitVec 16) :=
  if a.toNat + b.toNat < 2 ^ 16 then some (a + b) else none

inductive DiscoverError where
  | read (error : ReadError)
  | pastEnd (message : String)
  | noMarker (message : String)
  deriving DecidableEq, Repr

structure Walk where
  addr : Address
  models : ModelMap

/-- The loop body of `walk`: the next header to look at, or the result. -/
def walkStep (read : ReadPair) (walk : Walk) : Walk ⊕ Except DiscoverError ModelMap :=
  match read walk.addr with
  | .error error => .inr (.error (.read error))
  | .ok (id, len) =>
      if id = endId then .inr (.ok walk.models)
      else
        let start := walk.addr + 2
        match checkedAdd start len with
        | none =>
            let (id, addr) := (id.toNat, walk.addr.toNat)
            .inr (.error (.pastEnd s!"SunSpec model {id} at {addr} runs past register 65535"))
        | some next => .inl ⟨next, Function.update walk.models id (some start)⟩

/-- The loop itself, `none` while it has not ended within the fuel. -/
def walk (read : ReadPair) : ℕ → Walk → Option (Except DiscoverError ModelMap)
  | 0, _ => none
  | fuel + 1, state =>
      match walkStep read state with
      | .inl next => walk read fuel next
      | .inr result => some result

def discoverAt (read : ReadPair) (fuel : ℕ) : List Address → Option (Except DiscoverError ModelMap)
  | [] => some (.error (.noMarker "no SunSpec marker at [40000, 0, 50000]"))
  | base :: rest =>
      match read base with
      | .ok words =>
          if words = marker then walk read fuel ⟨base + 2, fun _ => none⟩
          else discoverAt read fuel rest
      -- An exception is the device saying it has no register there; anything else is a dead link.
      | .error (.exception _) => discoverAt read fuel rest
      | .error (.link message) => some (.error (.read (.link message)))

def discover (read : ReadPair) (fuel : ℕ) : Option (Except DiscoverError ModelMap) :=
  discoverAt read fuel bases

end EmsGateway.Sunspec
