import Mathlib.Data.List.Infix
import Mathlib.Logic.Function.Basic

/-!
A store next to the journal of what was done to it, newest event first. An event sets a key, drops
one, or leaves the store alone; what a key holds was set by an event that no other on the key has
come after. A journal is warranted if each of its events is by what came before it.
-/

namespace EmsGateway.Library

inductive Effect (κ ν : Type*) where
  | set (key : κ) (value : ν)
  | drop (key : κ)
  | nothing

section Journal

variable {κ ν ε : Type*}

def Effect.On (effect : Effect κ ν) (key : κ) : Prop :=
  match effect with
  | .set other _ => other = key
  | .drop other => other = key
  | .nothing => False

def Warranted (warrant : ε → List ε → Prop) (journal : List ε) : Prop :=
  ∀ event older, event :: older <:+ journal → warrant event older

theorem Warranted.nil (warrant : ε → List ε → Prop) : Warranted warrant [] := by
  intro event older suffix
  exact absurd (List.suffix_nil.mp suffix) (List.cons_ne_nil event older)

theorem Warranted.cons {warrant : ε → List ε → Prop} {journal : List ε}
    (warranted : Warranted warrant journal) {event : ε} (now : warrant event journal) :
    Warranted warrant (event :: journal) := by
  intro other older suffix
  rcases List.suffix_cons_iff.mp suffix with same | earlier
  · obtain ⟨rfl, rfl⟩ := List.cons.inj same
    exact now
  · exact warranted other older earlier

variable [DecidableEq κ]

def Effect.apply (effect : Effect κ ν) (store : κ → Option ν) : κ → Option ν :=
  match effect with
  | .set key value => Function.update store key (some value)
  | .drop key => Function.update store key none
  | .nothing => store

def replay (effect : ε → Effect κ ν) (journal : List ε) : κ → Option ν :=
  journal.foldr (fun event => (effect event).apply) fun _ => none

theorem Effect.apply_of_not_on {effect : Effect κ ν} {key : κ} (elsewhere : ¬effect.On key)
    (store : κ → Option ν) : effect.apply store key = store key := by
  cases effect with
  | set other value => exact Function.update_of_ne (Ne.symm elsewhere) _ _
  | drop other => exact Function.update_of_ne (Ne.symm elsewhere) _ _
  | nothing => rfl

/-- The event that set what a key holds, and that none on the key has come since. -/
theorem replay_found {effect : ε → Effect κ ν} {journal : List ε} {key : κ} {value : ν}
    (found : replay effect journal key = some value) :
    ∃ newer event older, journal = newer ++ event :: older ∧ effect event = .set key value ∧
      ∀ later ∈ newer, ¬(effect later).On key := by
  induction journal with
  | nil => exact absurd found (by simp [replay])
  | cons event older ih =>
      by_cases here : (effect event).On key
      · refine ⟨[], event, older, rfl, ?_, by simp⟩
        have applied : (effect event).apply (replay effect older) key = some value := found
        cases done : effect event with
        | set other stored =>
            rw [done] at here applied
            obtain rfl : other = key := here
            rw [Effect.apply, Function.update_self, Option.some.injEq] at applied
            rw [applied]
        | drop other =>
            rw [done] at here applied
            obtain rfl : other = key := here
            rw [Effect.apply, Function.update_self] at applied
            exact absurd applied (by simp)
        | nothing =>
            rw [done] at here
            exact here.elim
      · have earlier : replay effect older key = some value :=
          (Effect.apply_of_not_on here (replay effect older)).symm.trans found
        obtain ⟨newer, setter, rest, rfl, sets, untouched⟩ := ih earlier
        refine ⟨event :: newer, setter, rest, rfl, sets, ?_⟩
        intro later member
        rcases List.mem_cons.mp member with rfl | member
        · exact here
        · exact untouched later member

end Journal

end EmsGateway.Library
