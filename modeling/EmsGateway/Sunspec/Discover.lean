import EmsGateway.Sunspec.DiscoverCore

/-!
Where the walk goes. `Chain` is the chain of headers a register map describes, in exact addresses.
The walk follows it without wrapping as long as no model header sits at register 65534, the one
address from which the unchecked `addr + 2` leaves the address space.
-/

namespace EmsGateway.Sunspec

open EmsGateway.Modbus

def Visits (read : ReadPair) : Walk → Walk → Prop :=
  Relation.ReflTransGen fun before after => walkStep read before = .inl after

def startOf (base : Address) : Walk := ⟨base + 2, fun _ => none⟩

structure WalksSafely (read : ReadPair) (base : Address) : Prop where
  ends : ∃ fuel result, walk read fuel (startOf base) = some result
  no_overflow : ∀ state id len, Visits read (startOf base) state →
    read state.addr = .ok (id, len) → id ≠ endId → state.addr.toNat + 2 < 2 ^ 16
  advances : ∀ state next, Visits read (startOf base) state → walkStep read state = .inl next →
    state.addr.toNat + 2 ≤ next.addr.toNat
  past_header : ∀ fuel models, walk read fuel (startOf base) = some (.ok models) →
    ∀ id start, models id = some start →
      ∃ state len, Visits read (startOf base) state ∧ read state.addr = .ok (id, len) ∧
        start.toNat = state.addr.toNat + 2

inductive Chain (read : ReadPair) (first : Address) : ℕ → Prop
  | first : Chain read first first.toNat
  | next {addr : Address} {id len : Register} : Chain read first addr.toNat →
      read addr = .ok (id, len) → id ≠ endId → addr.toNat + 2 + len.toNat < 2 ^ 16 →
      Chain read first (addr.toNat + 2 + len.toNat)

/-- No model header of the chain sits at register 65534. -/
def ClearOfTop (read : ReadPair) (first : Address) : Prop :=
  Chain read first 65534 → ∀ id len, read 65534 = .ok (id, len) → id = endId

theorem checkedAdd_eq_some {a b c : BitVec 16} :
    checkedAdd a b = some c ↔ a.toNat + b.toNat < 2 ^ 16 ∧ c = a + b := by
  unfold checkedAdd
  split
  · simp_all [eq_comm]
  · simp_all

theorem walkStep_eq_inl {read : ReadPair} {state next : Walk} :
    walkStep read state = .inl next ↔
      ∃ id len, read state.addr = .ok (id, len) ∧ id ≠ endId ∧
        (state.addr + 2).toNat + len.toNat < 2 ^ 16 ∧
        next = ⟨state.addr + 2 + len, Function.update state.models id (some (state.addr + 2))⟩ := by
  unfold walkStep
  cases answer : read state.addr with
  | error error => simp
  | ok words =>
      obtain ⟨id, len⟩ := words
      by_cases ended : id = endId
      · simp [ended]
      · cases room : checkedAdd (state.addr + 2) len with
        | none =>
            have past : ¬(state.addr + 2).toNat + len.toNat < 2 ^ 16 := by
              intro fits
              rw [checkedAdd, if_pos fits] at room
              exact absurd room (by simp)
            simp only [ended, room, if_false, reduceCtorEq, false_iff]
            rintro ⟨id', len', same, _, fits, _⟩
            cases same
            exact past fits
        | some sum =>
            obtain ⟨fits, rfl⟩ := checkedAdd_eq_some.mp room
            simp only [ended, room, if_false, Sum.inl.injEq]
            constructor
            · rintro rfl
              exact ⟨id, len, rfl, ended, fits, rfl⟩
            · rintro ⟨id', len', same, _, _, rfl⟩
              cases same
              rfl

theorem walkStep_eq_ok {read : ReadPair} {state : Walk} {models : ModelMap}
    (ended : walkStep read state = .inr (.ok models)) : state.models = models := by
  unfold walkStep at ended
  cases answer : read state.addr with
  | error error => simp [answer] at ended
  | ok words =>
      obtain ⟨id, len⟩ := words
      simp only [answer] at ended
      split at ended
      · simpa using ended
      · split at ended
        · simp at ended
        · simp at ended

theorem toNat_add_two {addr : Address} (room : addr.toNat + 2 < 2 ^ 16) :
    (addr + 2).toNat = addr.toNat + 2 := by
  rw [BitVec.toNat_add]
  exact Nat.mod_eq_of_lt room

theorem walk_of_step {read : ReadPair} {state next : Walk} (step : walkStep read state = .inl next)
    (fuel : ℕ) : walk read (fuel + 1) state = walk read fuel next := by
  simp [walk, step]

section Clear

variable {read : ReadPair} {base : Address} (edge : ∃ error, read 65535 = .error error)
  (clear : ClearOfTop read (base + 2))

include edge clear

theorem room_on_chain {addr : Address} {id len : Register}
    (reached : Chain read (base + 2) addr.toNat) (answer : read addr = .ok (id, len))
    (model : id ≠ endId) : addr.toNat + 2 < 2 ^ 16 := by
  have bound := addr.isLt
  by_contra top
  rcases (by omega : addr.toNat = 65534 ∨ addr.toNat = 65535) with last | last
  · have same : addr = 65534 := BitVec.eq_of_toNat_eq last
    subst same
    exact model (clear reached id len answer)
  · have same : addr = 65535 := BitVec.eq_of_toNat_eq last
    obtain ⟨error, refused⟩ := edge
    rw [same, refused] at answer
    exact absurd answer (by simp)

theorem step_on_chain {state next : Walk} (reached : Chain read (base + 2) state.addr.toNat)
    (step : walkStep read state = .inl next) :
    Chain read (base + 2) next.addr.toNat ∧ state.addr.toNat + 2 ≤ next.addr.toNat := by
  obtain ⟨id, len, answer, model, fits, rfl⟩ := walkStep_eq_inl.mp step
  have room := room_on_chain edge clear reached answer model
  rw [toNat_add_two room] at fits
  have exact : (state.addr + 2 + len).toNat = state.addr.toNat + 2 + len.toNat := by
    rw [BitVec.toNat_add, toNat_add_two room, Nat.mod_eq_of_lt fits]
  dsimp only
  rw [exact]
  exact ⟨.next reached answer model fits, by omega⟩

theorem visits_on_chain {state : Walk} (visited : Visits read (startOf base) state) :
    Chain read (base + 2) state.addr.toNat := by
  induction visited with
  | refl => exact .first
  | tail _ step ih => exact (step_on_chain edge clear ih step).1

theorem ends_on_chain {state : Walk} (reached : Chain read (base + 2) state.addr.toNat) :
    ∃ fuel result, walk read fuel state = some result := by
  -- Each header is at least two registers past the one before it.
  generalize room : 2 ^ 16 - state.addr.toNat = distance
  induction distance using Nat.strongRecOn generalizing state with
  | ind distance ih =>
      cases step : walkStep read state with
      | inr result => exact ⟨1, result, by simp [walk, step]⟩
      | inl next =>
          obtain ⟨chained, further⟩ := step_on_chain edge clear reached step
          have bound := next.addr.isLt
          obtain ⟨fuel, result, ended⟩ := ih _ (by omega) chained rfl
          exact ⟨fuel + 1, result, by rw [walk_of_step step, ended]⟩

theorem recorded_on_chain {state : Walk} (visited : Visits read (startOf base) state)
    {id : Register} {start : Address} (recorded : state.models id = some start) :
    ∃ header len, Visits read (startOf base) header ∧ read header.addr = .ok (id, len) ∧
      start.toNat = header.addr.toNat + 2 := by
  induction visited with
  | refl => exact absurd recorded (by simp [startOf])
  | tail before step ih =>
      rename_i header _
      obtain ⟨found, len, answer, model, _, rfl⟩ := walkStep_eq_inl.mp step
      dsimp only at recorded
      by_cases same : id = found
      · subst same
        rw [Function.update_self, Option.some.injEq] at recorded
        refine ⟨header, len, before, answer, ?_⟩
        rw [← recorded]
        exact toNat_add_two
          (room_on_chain edge clear (visits_on_chain edge clear before) answer model)
      · rw [Function.update_of_ne same] at recorded
        exact ih recorded

end Clear

theorem visits_end {read : ReadPair} {fuel : ℕ} {state : Walk} {models : ModelMap}
    (ended : walk read fuel state = some (.ok models)) :
    ∃ last, Visits read state last ∧ last.models = models := by
  induction fuel generalizing state with
  | zero => exact absurd ended (by simp [walk])
  | succ fuel ih =>
      cases step : walkStep read state with
      | inl next =>
          rw [walk_of_step step] at ended
          obtain ⟨last, visited, final⟩ := ih ended
          exact ⟨last, .head step visited, final⟩
      | inr result =>
          simp only [walk, step, Option.some.injEq] at ended
          subst ended
          exact ⟨state, .refl, walkStep_eq_ok step⟩

theorem chain_visited {read : ReadPair} {base : Address} {position : ℕ}
    (reached : Chain read (base + 2) position) :
    ∃ state, Visits read (startOf base) state ∧ state.addr.toNat = position := by
  induction reached with
  | first => exact ⟨startOf base, .refl, rfl⟩
  | next _ answer model fits ih =>
      rename_i addr id len _
      obtain ⟨state, visited, position⟩ := ih
      have same : state.addr = addr := BitVec.eq_of_toNat_eq position
      subst same
      have start : (state.addr + 2).toNat = state.addr.toNat + 2 := toNat_add_two (by omega)
      refine ⟨_, visited.tail (walkStep_eq_inl.mpr ⟨id, len, answer, model, by omega, rfl⟩), ?_⟩
      dsimp only
      rw [BitVec.toNat_add, start, Nat.mod_eq_of_lt fits]

theorem walk_safe_iff {read : ReadPair} (edge : ∃ error, read 65535 = .error error)
    (base : Address) : WalksSafely read base ↔ ClearOfTop read (base + 2) := by
  constructor
  · intro safe reached id len answer
    obtain ⟨state, visited, position⟩ := chain_visited reached
    have same : state.addr = 65534 := BitVec.eq_of_toNat_eq position
    by_contra model
    have room := safe.no_overflow state id len visited (by rwa [same]) model
    omega
  · intro clear
    refine ⟨ends_on_chain edge clear .first, ?_, ?_, ?_⟩
    · intro state id len visited answer model
      exact room_on_chain edge clear (visits_on_chain edge clear visited) answer model
    · intro state next visited step
      exact (step_on_chain edge clear (visits_on_chain edge clear visited) step).2
    · intro fuel models ended id start found
      obtain ⟨last, visited, rfl⟩ := visits_end ended
      exact recorded_on_chain edge clear visited found

/-- Discovery ends whichever of the bases carries the marker. -/
theorem discover_ends {read : ReadPair} (edge : ∃ error, read 65535 = .error error)
    (clear : ∀ base ∈ bases, ClearOfTop read (base + 2)) :
    ∃ fuel result, discover read fuel = some result := by
  unfold discover
  generalize bases = candidates at clear
  induction candidates with
  | nil => exact ⟨0, _, rfl⟩
  | cons base rest ih =>
      obtain ⟨fuel, result, later⟩ := ih fun other member =>
        clear other (List.mem_cons_of_mem _ member)
      obtain ⟨walkFuel, walked, ended⟩ : ∃ fuel result, walk read fuel (startOf base) =
          some result := ends_on_chain edge (clear base List.mem_cons_self) .first
      cases answer : read base with
      | error error =>
          cases error with
          | exception message => exact ⟨fuel, result, by simp [discoverAt, answer, later]⟩
          | link message => exact ⟨0, _, by simp [discoverAt, answer]; rfl⟩
      | ok words =>
          by_cases marked : words = marker
          · exact ⟨walkFuel, walked, by simpa [discoverAt, answer, marked, startOf] using ended⟩
          · exact ⟨fuel, result, by simp [discoverAt, answer, marked, later]⟩

/-- One model that fills the space up to register 65534, and a second header there. -/
def fullMap : ReadPair := fun addr =>
  if addr = 40002 then .ok (1, 25530)
  else if addr = 65534 then .ok (2, 65534)
  else .error (.exception "illegal data address")

theorem fullMap_loops (models : ModelMap) (fuel : ℕ) :
    walk fullMap fuel ⟨65534, models⟩ = none := by
  induction fuel generalizing models with
  | zero => rfl
  | succ fuel ih =>
      -- 65534 + 2 wraps to 0, and the length leads back to 65534.
      have again : walkStep fullMap ⟨65534, models⟩ =
          .inl ⟨65534, Function.update models 2 (some 0)⟩ :=
        walkStep_eq_inl.mpr ⟨2, 65534, rfl, by decide, by simp, by simp⟩
      rw [walk_of_step again, ih]

theorem fullMap_not_safe : ¬WalksSafely fullMap 40000 ∧
    ∀ fuel, walk fullMap fuel (startOf 40000) = none := by
  have first : walkStep fullMap (startOf 40000) =
      .inl ⟨65534, Function.update (fun _ => none) 1 (some 40004)⟩ := rfl
  constructor
  · intro safe
    have room := safe.no_overflow _ 2 65534 (.single first) rfl (by decide)
    exact absurd room (by decide)
  · intro fuel
    cases fuel with
    | zero => rfl
    | succ fuel => rw [walk_of_step first, fullMap_loops]

/-- The standard layout: common model, inverter model, end marker. -/
def inverterMap : ReadPair := fun addr =>
  if addr = 40002 then .ok (1, 66)
  else if addr = 40070 then .ok (103, 50)
  else if addr = 40122 then .ok (0xFFFF, 0)
  else .error (.exception "illegal data address")

theorem inverterMap_safe : WalksSafely inverterMap 40000 :=
  (walk_safe_iff ⟨.exception "illegal data address", rfl⟩ 40000).mpr
    fun _ _ _ answer => absurd answer (by simp [inverterMap])

end EmsGateway.Sunspec
