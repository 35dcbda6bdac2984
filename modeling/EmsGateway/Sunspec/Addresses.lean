import EmsGateway.Sunspec.Discover
import EmsGateway.Sunspec.Setpoints

/-!
Where a binding's registers are. The walk keeps the start of each model and drops its length, and
the offsets come from the shipped tables, so a resolved address is inside the model exactly as far
as the length in the device's own header reaches.
-/

namespace EmsGateway.Sunspec

open EmsGateway.Library EmsGateway.Modbus

/-- The model's header, two registers before its first point, and the room its length has. -/
structure HeaderOf (read : ReadPair) (modelId : BitVec 16) (start : Address) (len : Register) :
    Prop where
  answered : read (start - 2) = .ok (modelId, len)
  fits : start.toNat + len.toNat < 2 ^ 16

/-- The `count` registers from `offset` on, computed as `addr`, lie in the model. -/
structure WithinModel (start : Address) (len : Register) (offset : BitVec 16) (count : ℕ)
    (addr : Address) : Prop where
  no_overflow : start.toNat + offset.toNat < 2 ^ 16
  starts : start.toNat ≤ addr.toNat
  ends : addr.toNat + count ≤ start.toNat + len.toNat

theorem withinModel_iff {start : Address} {len : Register}
    (fits : start.toNat + len.toNat < 2 ^ 16) (offset : BitVec 16) {count : ℕ} (some : 0 < count) :
    WithinModel start len offset count (start + offset) ↔ offset.toNat + count ≤ len.toNat := by
  have startBound := start.isLt
  have offsetBound := offset.isLt
  constructor
  · rintro ⟨exact, _, ends⟩
    rw [BitVec.toNat_add, Nat.mod_eq_of_lt exact] at ends
    omega
  · intro covered
    have exact : start.toNat + offset.toNat < 2 ^ 16 := by omega
    have position : (start + offset).toNat = start.toNat + offset.toNat := by
      rw [BitVec.toNat_add, Nat.mod_eq_of_lt exact]
    exact ⟨exact, by omega, by omega⟩

theorem header_of_visited {read : ReadPair} {base : Address} {state : Walk}
    (visited : Visits read (startOf base) state) {modelId : BitVec 16} {start : Address}
    (recorded : state.models modelId = some start) : ∃ len, HeaderOf read modelId start len := by
  induction visited with
  | refl => exact absurd recorded (by simp [startOf])
  | tail before step ih =>
      obtain ⟨found, len, answer, _, fits, rfl⟩ := walkStep_eq_inl.mp step
      dsimp only at recorded
      by_cases same : modelId = found
      · subst same
        rw [Function.update_self, Option.some.injEq] at recorded
        subst recorded
        exact ⟨len, by rwa [BitVec.add_sub_cancel], fits⟩
      · rw [Function.update_of_ne same] at recorded
        exact ih recorded

theorem header_of_discovered {read : ReadPair} {fuel : ℕ} {models : ModelMap}
    (discovered : discover read fuel = some (.ok models)) {modelId : BitVec 16} {start : Address}
    (recorded : models modelId = some start) : ∃ len, HeaderOf read modelId start len := by
  unfold discover at discovered
  generalize bases = candidates at discovered
  induction candidates with
  | nil => simp [discoverAt] at discovered
  | cons base rest ih =>
      simp only [discoverAt] at discovered
      split at discovered
      · split at discovered
        · obtain ⟨last, visited, rfl⟩ := visits_end discovered
          exact header_of_visited visited recorded
        · exact ih discovered
      · exact ih discovered
      · simp at discovered

theorem point_of_accepted {b : SunspecBinding} {found : PointDef}
    (accepted : readable b = .ok found ∨ writable b = .ok found) :
    point b.modelId b.point = some found := by
  rcases accepted with read | write
  · exact readable_point read
  · exact readable_point (writable_eq_ok write).1

/-- The address computed for a point, and the one for its scale factor if it has one. -/
theorem address_eq_ok {models : ModelMap} {b : SunspecBinding} {found : PointDef} {addr : Address}
    {sfAddr : Option Address} (resolved : address models b found = .ok (addr, sfAddr)) :
    ∃ start, models b.modelId = some start ∧ addr = start + found.offset ∧
      ((found.sf = none ∧ sfAddr = none) ∨ ∃ id sf, found.sf = some id ∧
        point b.modelId id = some sf ∧ sfAddr = some (start + sf.offset)) := by
  unfold address at resolved
  obtain ⟨start, recorded, resolved⟩ := bind_ok resolved
  refine ⟨start, okOr_ok recorded, ?_⟩
  cases scale : found.sf with
  | none =>
      simp only [scale] at resolved
      cases resolved
      exact ⟨rfl, .inl ⟨rfl, rfl⟩⟩
  | some id =>
      simp only [scale] at resolved
      obtain ⟨sf, listed, resolved⟩ := bind_ok resolved
      cases resolved
      exact ⟨rfl, .inr ⟨id, sf, rfl, okOr_ok listed, rfl⟩⟩

/-- The scale factor point of `found`, if it has one. -/
def sfPoint (modelId : BitVec 16) (found : PointDef) : Option PointDef :=
  found.sf.bind (point modelId)

/-- The length in the header reaches over the point and over its scale factor. -/
def Covers (modelId : BitVec 16) (found : PointDef) (len : Register) : Prop :=
  found.offset.toNat + found.kind.registerCount ≤ len.toNat ∧
    ∀ sf ∈ sfPoint modelId found, sf.offset.toNat + 1 ≤ len.toNat

structure ResolvedInside (modelId : BitVec 16) (found : PointDef) (start : Address)
    (len : Register) (addr : Address) (sfAddr : Option Address) : Prop where
  point : WithinModel start len found.offset found.kind.registerCount addr
  scale : ∀ a ∈ sfAddr, ∃ sf ∈ sfPoint modelId found, WithinModel start len sf.offset 1 a

theorem registerCount_pos (kind : PointType) : 0 < kind.registerCount := by
  cases kind <;> decide

theorem resolved_inside_iff {read : ReadPair} {fuel : ℕ} {models : ModelMap}
    (discovered : discover read fuel = some (.ok models)) {b : SunspecBinding} {found : PointDef}
    (accepted : readable b = .ok found ∨ writable b = .ok found) {addr : Address}
    {sfAddr : Option Address} (resolved : address models b found = .ok (addr, sfAddr)) :
    point b.modelId b.point = some found ∧
    ∃ start len, models b.modelId = some start ∧ HeaderOf read b.modelId start len ∧
      (ResolvedInside b.modelId found start len addr sfAddr ↔ Covers b.modelId found len) := by
  obtain ⟨start, recorded, rfl, scaled⟩ := address_eq_ok resolved
  obtain ⟨len, header⟩ := header_of_discovered discovered recorded
  have pointInside := withinModel_iff header.fits found.offset (registerCount_pos found.kind)
  refine ⟨point_of_accepted accepted, start, len, recorded, header, ?_⟩
  rcases scaled with ⟨unscaled, rfl⟩ | ⟨id, sf, named, listed, rfl⟩
  · have none : sfPoint b.modelId found = none := by simp [sfPoint, unscaled]
    constructor
    · intro inside
      exact ⟨pointInside.mp inside.point, by simp [none]⟩
    · intro covers
      exact ⟨pointInside.mpr covers.1, by simp⟩
  · have only : sfPoint b.modelId found = some sf := by simp [sfPoint, named, listed]
    have scaleInside := withinModel_iff header.fits sf.offset zero_lt_one
    constructor
    · intro inside
      obtain ⟨other, same, within⟩ := inside.scale _ rfl
      obtain rfl := Option.some.inj (only.symm.trans same)
      refine ⟨pointInside.mp inside.point, ?_⟩
      intro point member
      obtain rfl := Option.some.inj (only.symm.trans member)
      exact scaleInside.mp within
    · intro covers
      refine ⟨pointInside.mpr covers.1, ?_⟩
      intro a member
      obtain rfl := Option.some.inj member
      exact ⟨sf, only, scaleInside.mpr (covers.2 sf only)⟩

/-- A PCS whose control model ends after four registers, with an inverter model right behind. -/
def shortControlMap : ReadPair := fun addr =>
  if addr = 40000 then .ok marker
  else if addr = 40002 then .ok (65534, 4)
  else if addr = 40008 then .ok (103, 50)
  else if addr = 40060 then .ok (0xFFFF, 0)
  else .error (.exception "illegal data address")

def shortControlModels : ModelMap :=
  Function.update (Function.update (fun _ => none) 65534 (some 40004)) 103 (some 40010)

theorem shortControlMap_discovered :
    discover shortControlMap 3 = some (.ok shortControlModels) := rfl

def commandVoltage : SunspecBinding := ⟨none, 65534, "CmdV", none⟩

/-- The voltage command lands in the inverter model, on the current of phase A. -/
theorem command_resolved_outside :
    ∃ models found addr sfAddr, discover shortControlMap 3 = some (.ok models) ∧
      writable commandVoltage = .ok found ∧
      address models commandVoltage found = .ok (addr, sfAddr) ∧
      models 65534 = some 40004 ∧ HeaderOf shortControlMap 65534 40004 4 ∧ addr = 40011 ∧
      ¬ResolvedInside 65534 found 40004 4 addr sfAddr := by
  refine ⟨_, .w "CmdV" 7 .uint16 (some "V_SF"), 40011, some 40012, shortControlMap_discovered,
    by rfl, by rfl, by rfl, ⟨by rfl, by decide⟩, rfl, ?_⟩
  intro inside
  exact absurd inside.point.ends (by decide)

def readCurrent : SunspecBinding := ⟨none, 103, "A", none⟩

theorem current_resolved_inside :
    ∃ start len, shortControlModels 103 = some start ∧ HeaderOf shortControlMap 103 start len ∧
      (ResolvedInside 103 (.r "A" 0 .uint16 (some "A_SF")) start len 40010 (some 40014) ↔
        Covers 103 (.r "A" 0 .uint16 (some "A_SF")) len) :=
  (resolved_inside_iff (b := readCurrent) shortControlMap_discovered (.inl rfl) rfl).2

end EmsGateway.Sunspec
