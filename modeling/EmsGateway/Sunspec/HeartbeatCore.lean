import EmsGateway.Dispatch.ExecuteCore

/-!
The SunSpec command word (`sunspec::bits`, `write_bit` and `sunspec::heartbeat`). The word a
device is asserted lives in a slot of its own that outlives the heartbeat task; the beat and the
bit commands run under its lock, one at a time. A spec keeps only bits below 32
(`resolve::readable`). Each operation gives the slot after it and the word it passed to
`write_word`, if any.
-/

namespace EmsGateway.Sunspec

open EmsGateway.Dispatch

abbrev CommandWord := BitVec 32

abbrev Slot := Option CommandWord

/-! `bits` -/

def bitMask (bit : Fin 32) : CommandWord := 1#32 <<< bit.val

def apply (slot : Slot) (bit : Fin 32) (action : BitAction) :
    Except String (CommandWord × CommandWord) :=
  match slot with
  | none => .error "no heartbeat running; the PCS isn't listening"
  | some word =>
      .ok (match action with
        | .set => (word ||| bitMask bit, word ||| bitMask bit)
        | .clear => (word &&& ~~~bitMask bit, word &&& ~~~bitMask bit)
        | .pulse => (word ||| bitMask bit, word &&& ~~~bitMask bit))

structure Operation where
  slot : Slot
  written : Option CommandWord

/-- `write_bit`: the new word is kept only if its write succeeded. -/
def writeBit (slot : Slot) (bit : Fin 32) (action : BitAction) (succeeds : Bool) : Operation :=
  match apply slot bit action with
  | .error _ => ⟨slot, none⟩
  | .ok (now, keep) => ⟨if succeeds then some keep else slot, some now⟩

/-! `heartbeat` -/

/-- One beat. A beat whose write fails leaves the slot as one whose write succeeds. -/
def beat (owned : CommandWord) (slot : Slot) (steerable : Bool)
    (read : Except String CommandWord) : Operation :=
  if !steerable then ⟨none, none⟩
  else
    match slot, read with
    | some word, _ => ⟨some word, some word⟩
    | none, .error _ => ⟨none, none⟩
    | none, .ok seed => ⟨some (seed &&& ~~~owned), some (seed &&& ~~~owned)⟩

end EmsGateway.Sunspec
