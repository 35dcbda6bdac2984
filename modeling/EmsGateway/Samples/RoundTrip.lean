import EmsGateway.Dispatch.Distribute
import EmsGateway.Library.Delimited
import EmsGateway.Samples.PayloadCore

/-!
A reading's way through the broker. What a poller publishes is cached as that very reading, in the
kind its schema declares. A rack whose operating state goes out as a label is read as the same state
as one that sends the bare register code, so the module's setpoint is split alike.
-/

namespace EmsGateway.Samples

open EmsGateway.Asyncapi EmsGateway.Dispatch EmsGateway.Library EmsGateway.Redfish

/-! Published and cached -/

/-- The value that a reading of the kind has in the cache. -/
inductive Carries (formats : Formats) (valueMap : Option ValueMap) : Kind → Raw → Value → Prop where
  | number (n : ℚ) : Carries formats valueMap .number (.number n) (.number n)
  | boolean (n : ℚ) : Carries formats valueMap .boolean (.number n) (.bool (n ≠ 0))
  | label {labels : ValueMap} {raw : Raw} {label : String} (given : valueMap = some labels)
      (mapped : labels (labelKey formats raw) = some label) :
      Carries formats valueMap .label raw (.str label)

section Samples

variable {formats : Formats} {payload : Option Payload} {raw : Raw} {valueMap : Option ValueMap}
  {ts : String} {sample : Json}

end Samples

def plainFormats : Formats := ⟨fun _ => .ok (), fun _ _ => .ok (), fun _ => "0.5"⟩

/-- The map takes whole register codes, and to the labels of their states. -/
structure NamesStates (labels : ValueMap) : Prop where
  codes : ∀ key label, labels key = some label → ∃ code : ℤ, key = toString code
  names : ∀ (code : ℤ) label, labels (toString code) = some label →
    operatingStateFromLabel label = operatingStateFromF64 code

theorem dot_notMem_toString (code : ℤ) : '.' ∉ (toString code).toList := by
  cases code with
  | ofNat n => exact notMem_toString rfl n
  | negSucc n =>
      have text : (toString (Int.negSucc n)).toList = '-' :: (toString (n + 1)).toList := by
        have shown : toString (Int.negSucc n) = "-" ++ toString (n + 1) := rfl
        rw [shown, String.toList_append]
        rfl
      rw [text, List.mem_cons, not_or]
      exact ⟨by decide, notMem_toString rfl _⟩

theorem roundToI64_intCast (code : ℤ) :
    roundToI64 (code : ℚ) = max (-2 ^ 63) (min code (2 ^ 63 - 1)) := by
  have up : ⌊(code : ℚ) + 1 / 2⌋ = code := by
    rw [Int.floor_intCast_add]
    norm_num
  have down : ⌊-(code : ℚ) + 1 / 2⌋ = -code := by
    rw [← Int.cast_neg, Int.floor_intCast_add]
    norm_num
  unfold roundToI64
  simp only [up, down, neg_neg, ite_self]

theorem operatingState_asI64 {n : ℚ} (whole : Int.fract n = 0) :
    operatingStateFromF64 (asI64 n : ℤ) = operatingStateFromF64 n := by
  have cast : ((⌊n⌋ : ℤ) : ℚ) = n := by
    have parts := Int.floor_add_fract n
    rwa [whole, add_zero] at parts
  have same : roundToI64 ((asI64 n : ℤ) : ℚ) = roundToI64 n := by
    rw [roundToI64_intCast, ← cast, roundToI64_intCast, cast, asI64]
    omega
  unfold operatingStateFromF64
  simp only [same]

/-- A code published through the map is read as the state of the bare code. -/
theorem carried_state {formats : Formats}
    (dotted : ∀ n : ℚ, Int.fract n ≠ 0 → '.' ∈ (formats.display n).toList) {labels : ValueMap}
    (names : NamesStates labels) {n : ℚ} {value : Value}
    (carries : Carries formats (some labels) .label (.number n) value) :
    operatingState value = operatingState (.number n) := by
  cases carries with
  | @label found _ label given mapped =>
      obtain rfl := Option.some.inj given
      by_cases whole : Int.fract n = 0
      · rw [labelKey, if_pos whole] at mapped
        exact (names.names _ label mapped).trans (operatingState_asI64 whole)
      · rw [labelKey, if_neg whole] at mapped
        obtain ⟨code, shown⟩ := names.codes _ label mapped
        have dot := dotted n whole
        rw [shown] at dot
        exact absurd dot (dot_notMem_toString code)

/-! A fleet that sends labels, and the same fleet sending codes -/

/-- In one cache the child's state is a published label, in the other the code that it was published
from, and whatever else a distribution reads of the child is the same. -/
structure SameChild (formats : Formats) (labels : ValueMap) (siteId : String)
    (labelled coded : InputCache) (c : ChildAllocation) : Prop where
  state : stateEntry c siteId labelled = none ∧ stateEntry c siteId coded = none ∨
    ∃ n value received, Carries formats (some labels) .label (.number n) value ∧
      stateEntry c siteId labelled = some (value, received) ∧
        stateEntry c siteId coded = some (.number n, received)
  charge : socEntry c siteId labelled = socEntry c siteId coded
  limits : ∀ charging, labelled (limitTopic siteId c.deviceId charging) =
    coded (limitTopic siteId c.deviceId charging)

section Fleet

variable {formats : Formats} {labels : ValueMap} {siteId : String} {labelled coded : InputCache}

theorem resolveChild_labelled
    (dotted : ∀ n : ℚ, Int.fract n ≠ 0 → '.' ∈ (formats.display n).toList)
    (names : NamesStates labels) {c : ChildAllocation}
    (child : SameChild formats labels siteId labelled coded c) (target : ℚ) (now : Instant) :
    resolveChild c target siteId labelled now = resolveChild c target siteId coded now := by
  have room : rackHeadroom c target siteId labelled now = rackHeadroom c target siteId coded now := by
    unfold rackHeadroom liveLimit
    rw [child.limits]
  unfold resolveChild
  rw [child.charge, room]
  rcases child.state with ⟨none, alsoNone⟩ | ⟨n, value, received, carries, label, code⟩
  · rw [none, alsoNone]
  · rw [label, code, okOr_some, okOr_some]
    have same := carried_state dotted names carries
    have reported : ∀ soc : CacheEntry, reportedState now (value, received) soc =
        reportedState now (.number n, received) soc := by
      intro soc
      simp only [reportedState, same]
    simp only [bind, Except.bind, reported]

/-- A module whose racks publish their states as labels splits any setpoint as it would if they
published the bare codes. -/
theorem labelled_fleet_shares_alike
    (dotted : ∀ n : ℚ, Int.fract n ≠ 0 → '.' ∈ (formats.display n).toList)
    (names : NamesStates labels) {binding : DistributeBinding}
    (children : ∀ c ∈ binding.children, SameChild formats labels siteId labelled coded c)
    (reserve : ∀ template, binding.operatorReserveTopic = some template →
      labelled (substituteSiteId template siteId) = coded (substituteSiteId template siteId))
    (target : ℚ) (now : Instant) (locked : Finset String) :
    computeShares binding target siteId labelled now locked =
      computeShares binding target siteId coded now locked := by
  have floor : effectiveFloorPercent binding siteId labelled =
      effectiveFloorPercent binding siteId coded := by
    unfold effectiveFloorPercent operatorReservePercent
    cases topic : binding.operatorReserveTopic with
    | none => rfl
    | some template => simp only [bind, Option.bind, reserve template topic]
  unfold computeShares
  rw [floor]
  refine bind_congr fun policy => ?_
  refine congrArg (· >>= _) (mapM_congr_of_mem ?_)
  intro c member
  have present := (List.mem_filter.mp member).1
  rw [resolveChild_labelled dotted names (children c present) target now]

end Fleet

/-! The usual map, and a rack `r1` that reports it is discharging -/

def stateLabels : ValueMap := fun key =>
  if key = "0" then some "STANDBY"
  else if key = "1" then some "CHARGING"
  else if key = "2" then some "DISCHARGING"
  else if key = "3" then some "FAULT"
  else if key = "4" then some "OFFLINE"
  else none

theorem stateLabels_cases {key label : String} (mapped : stateLabels key = some label) :
    ∃ code : ℕ, key = toString code ∧
      operatingStateFromLabel label = operatingStateFromF64 code := by
  unfold stateLabels at mapped
  split at mapped
  · rename_i zero
    rw [← Option.some.inj mapped]
    exact ⟨0, zero, by decide +kernel⟩
  · split at mapped
    · rename_i one
      rw [← Option.some.inj mapped]
      exact ⟨1, one, by decide +kernel⟩
    · split at mapped
      · rename_i two
        rw [← Option.some.inj mapped]
        exact ⟨2, two, by decide +kernel⟩
      · split at mapped
        · rename_i three
          rw [← Option.some.inj mapped]
          exact ⟨3, three, by decide +kernel⟩
        · split at mapped
          · rename_i four
            rw [← Option.some.inj mapped]
            exact ⟨4, four, by decide +kernel⟩
          · simp at mapped

theorem namesStates_stateLabels : NamesStates stateLabels := by
  refine ⟨?_, ?_⟩
  · intro key label mapped
    obtain ⟨code, text, _⟩ := stateLabels_cases mapped
    exact ⟨code, text⟩
  · intro code label mapped
    obtain ⟨n, text, same⟩ := stateLabels_cases mapped
    cases code with
    | ofNat m =>
        have equal : m = n := toList_toString_inj (congrArg String.toList text)
        rw [equal]
        exact same
    | negSucc m =>
        have sign : '-' ∈ (toString (Int.negSucc m)).toList := by
          have shown : toString (Int.negSucc m) = "-" ++ toString (m + 1) := rfl
          rw [shown, String.toList_append]
          exact List.mem_append_left _ (by decide)
        rw [text] at sign
        exact absurd sign (notMem_toString rfl n)

theorem labelled_fleet_shares_alike_discharging :
    computeShares (rackBinding [rack "r1" 100]) 60 "s1"
        (Function.update rackCache "sites/s1/r1/state" (some (.str "DISCHARGING", 0))) 0 ∅ =
      computeShares (rackBinding [rack "r1" 100]) 60 "s1"
        (Function.update rackCache "sites/s1/r1/state" (some (.number 2, 0))) 0 ∅ := by
  have dotted : ∀ n : ℚ, Int.fract n ≠ 0 → '.' ∈ (plainFormats.display n).toList :=
    fun _ _ => (by decide : '.' ∈ "0.5".toList)
  refine labelled_fleet_shares_alike dotted namesStates_stateLabels ?_ ?_ 60 0 ∅
  · intro c member
    obtain rfl := List.mem_singleton.mp member
    exact ⟨.inr ⟨2, .str "DISCHARGING", 0, .label rfl (by decide +kernel), by decide +kernel,
      by decide +kernel⟩, by decide +kernel, by decide +kernel⟩
  · rintro template ⟨⟩

end EmsGateway.Samples
