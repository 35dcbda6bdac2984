import EmsGateway.Modbus.Codec
import EmsGateway.Modbus.TransportCore

/-!
A setpoint over a link that loses requests and answers. However many of its attempts the device took
without the gateway hearing of it, the device ends up with all of the words or with none; a setpoint
acknowledged as written is there, and reads back.
-/

namespace EmsGateway.Modbus

open EmsGateway.Library

/-! Requests -/

section Requests

variable {α : Type} {what invalid : String} {line : Line α}

theorem request_ok {value : α} (answered : (request what invalid line).result = .ok value) :
    ∃ k < (request what invalid line).requests, (line.exchange k).1 = .ok value := by
  unfold request at answered ⊢
  split at answered
  · exact absurd answered (by simp)
  · exact absurd answered (by simp)
  · dsimp only at answered ⊢
    cases tried : (retry backoff (fun k => ((line.exchange k).1.attempt, (line.exchange k).2))
        maxAttempts).result with
    | error failure =>
        rw [tried] at answered
        exact absurd answered (by simp [Except.mapError])
    | ok other =>
        rw [tried] at answered
        obtain rfl : other = value := Except.ok.inj answered
        obtain ⟨k, made, done⟩ := retry_ok tried
        refine ⟨k, made, ?_⟩
        cases reply : (line.exchange k).1 with
        | ok found => simpa [reply, Reply.attempt] using done
        | exception message => simp [reply, Reply.attempt] at done
        | failed message => simp [reply, Reply.attempt] at done

theorem request_requests_le : (request what invalid line).requests ≤ maxAttempts := by
  unfold request
  split
  · exact Nat.zero_le _
  · exact Nat.zero_le _
  · exact retry_requests_le maxAttempts

/-- Five attempts and the pauses between them. -/
theorem request_time_le {limit : ℕ} (prompt : ∀ k, (line.exchange k).2 ≤ limit) :
    (request what invalid line).time ≤ 5 * limit + 31 * (nanosPerSec / 2) := by
  unfold request
  split
  · exact Nat.zero_le _
  · exact Nat.zero_le _
  · refine (retry_time_le prompt maxAttempts).trans (Nat.add_le_add_left ?_ _)
    decide +kernel

end Requests

/-! What is left in the device -/

theorem put_put (request : WriteRequest) (registers : Registers) :
    request.put (request.put registers) = request.put registers := by
  unfold WriteRequest.put
  rw [Function.update_idem]
  congr 1
  funext a
  rw [Function.update_self]
  split
  · cases request.sent[a - request.address.toNat]? with
    | none => rfl
    | some word => rfl
  · rfl

theorem landed_eq (line : WriteLine) (request : WriteRequest) (registers : Registers) (n : ℕ) :
    line.landed request n registers =
      if ∃ k < n, line.lands k = true then request.put registers else registers := by
  induction n with
  | zero => simp [WriteLine.landed]
  | succ n ih =>
      have last : line.landed request (n + 1) registers =
          if line.lands n then request.put (line.landed request n registers)
          else line.landed request n registers := by
        simp [WriteLine.landed, List.range_succ]
      rw [last, ih]
      by_cases lands : line.lands n = true
      · have here : ∃ k < n + 1, line.lands k = true := ⟨n, Nat.lt_succ_self n, lands⟩
        rw [if_pos lands, if_pos here]
        split
        · exact put_put request registers
        · rfl
      · rw [if_neg lands]
        refine if_congr ?_ rfl rfl
        constructor
        · rintro ⟨k, less, landed⟩
          exact ⟨k, Nat.lt_succ_of_lt less, landed⟩
        · rintro ⟨k, less, landed⟩
          refine ⟨k, lt_of_le_of_ne (Nat.le_of_lt_succ less) ?_, landed⟩
          rintro rfl
          exact lands landed

/-- A device that answers has taken the words, and one that answers with an exception has not; what
it did with a request that got no answer is open. -/
structure WriteLine.Honest (line : WriteLine) : Prop where
  accepted : ∀ k, (line.exchange k).1 = .ok () → line.lands k = true
  refused : ∀ k message, (line.exchange k).1 = .exception message → line.lands k = false

/-- A write that is acknowledged is in the device, and of one that is not the device holds all words
or none; it is over after five attempts, each no longer than `limit`, and 15.5 s of pauses. -/
theorem setpoint_all_or_nothing (b : ModbusTcpBinding) (value : ℚ) {line : WriteLine}
    (honest : line.Honest) {limit : ℕ} (prompt : ∀ k, (line.exchange k).2 ≤ limit)
    (registers : Registers) :
    let delivered := deliverSetpoint b value line registers
    (delivered.answered.result = .ok () → ∃ request, writeSetpoint b value = .ok request ∧
        delivered.registers = request.put registers) ∧
      (delivered.registers = registers ∨ ∃ request, writeSetpoint b value = .ok request ∧
        delivered.registers = request.put registers) ∧
      delivered.answered.requests ≤ maxAttempts ∧
      delivered.answered.time ≤ 5 * limit + 31 * (nanosPerSec / 2) := by
  unfold deliverSetpoint
  cases written : writeSetpoint b value with
  | error message =>
      exact ⟨fun ok => absurd ok (by simp), .inl rfl, Nat.zero_le _, Nat.zero_le _⟩
  | ok request =>
      refine ⟨?_, ?_, request_requests_le, request_time_le prompt⟩
      · intro ok
        obtain ⟨k, made, reply⟩ := request_ok ok
        refine ⟨request, rfl, ?_⟩
        dsimp only
        rw [landed_eq]
        exact if_pos ⟨k, made, honest.accepted k reply⟩
      · dsimp only
        rw [landed_eq]
        split
        · exact .inr ⟨request, rfl, rfl⟩
        · exact .inl rfl

/-! Reading it back -/

/-- The measurement reads the holding registers that the command writes, with no scale factor of its
own. -/
structure MeasurementBinding.Mirrors (m : MeasurementBinding) (b : ModbusTcpBinding) : Prop where
  same : m.toModbusTcpBinding = { b with functionCode := m.functionCode }
  holding : readFunction m.functionCode = .ok .holding
  unscaled : m.scaleFactorAddress = none

/-- What the line reads is what the device holds. -/
def Shows (m : MeasurementBinding) (line : Line (List Register)) (registers : Registers) : Prop :=
  ∀ function, readFunction m.functionCode = .ok function → ∀ k words,
    (line.exchange k).1 = .ok words →
      words = (List.range m.dataType.registerCount).map fun i =>
        registers function (m.address.toNat + i)

/-- The request carries as many words as the type spans, and all of them go out. -/
theorem sent_of_written {b : ModbusTcpBinding} (integer : b.dataType ≠ .float32)
    (nonzero : b.scale ≠ 0) {value : ℚ} {request : WriteRequest}
    (written : writeSetpoint b value = .ok request) :
    request.address = b.address ∧ request.sent = request.words ∧
      request.words.length = b.dataType.registerCount := by
  have encoded := writeSetpoint_eq_ok written
  rw [toRaw, if_neg nonzero] at encoded
  obtain ⟨_, same⟩ := encodeRaw_eq_ok integer _ encoded
  have length : request.words.length = b.dataType.registerCount := by
    rw [← same]
    exact length_encodeFinite integer _ _
  unfold writeSetpoint at written
  obtain ⟨function, checked, written⟩ := bind_ok written
  obtain ⟨words, _, written⟩ := bind_ok written
  obtain ⟨unit, _, written⟩ := bind_ok written
  obtain rfl : (⟨unit, b.address, words, function⟩ : WriteRequest) = request :=
    Except.ok.inj written
  refine ⟨rfl, ?_, length⟩
  unfold WriteRequest.sent
  cases function with
  | multiple => rfl
  | single =>
      -- FC6 is only accepted for a type of one register
      have one : b.dataType.registerCount = 1 := by
        unfold writeFunction at checked
        split at checked
        · simp at checked
        · simp at checked
        · split at checked
          · assumption
          · simp at checked
        · simp at checked
      dsimp only at length ⊢
      rw [List.take_of_length_le (by omega)]

theorem put_shown (request : WriteRequest) (registers : Registers) :
    ((List.range request.sent.length).map fun i =>
      request.put registers .holding (request.address.toNat + i)) = request.sent := by
  apply List.ext_getElem
  · simp
  · intro i inside bound
    simp [WriteRequest.put, bound]

/-- A setpoint acknowledged as written reads back within half a unit of its scale, for as long as
nothing else is written there, whatever got lost on the way to the device and back. -/
theorem acknowledged_setpoint_reads_back {b : ModbusTcpBinding} (integer : b.dataType ≠ .float32)
    (nonzero : b.scale ≠ 0) {value : ℚ} {line : WriteLine} (honest : line.Honest)
    {registers : Registers}
    (acknowledged : (deliverSetpoint b value line registers).answered.result = .ok ())
    {m : MeasurementBinding} (mirrors : m.Mirrors b) {readLine sfLine : Line (List Register)}
    (faithful : Shows m readLine (deliverSetpoint b value line registers).registers) {reading : F64}
    (read : readOn m readLine sfLine = .ok reading) :
    ∃ x, reading = .finite x ∧ |x - value| ≤ |b.scale| / 2 := by
  unfold deliverSetpoint at acknowledged faithful
  cases written : writeSetpoint b value with
  | error message =>
      rw [written] at acknowledged
      exact absurd acknowledged (by simp)
  | ok request =>
      rw [written] at acknowledged faithful
      dsimp only at acknowledged faithful
      obtain ⟨k, made, reply⟩ := request_ok acknowledged
      rw [landed_eq, if_pos ⟨k, made, honest.accepted k reply⟩] at faithful
      obtain ⟨address, sent, length⟩ := sent_of_written integer nonzero written
      obtain ⟨raw, decoded, close⟩ := abs_readBack_sub integer nonzero written
      -- the words that are read are the words that were sent
      unfold readOn at read
      rw [mirrors.holding] at read
      obtain ⟨function, isHolding, read⟩ := bind_ok read
      obtain rfl := Except.ok.inj isHolding
      obtain ⟨unit, _, read⟩ := bind_ok read
      obtain ⟨words, answered, read⟩ := bind_ok read
      obtain ⟨other, _, answer⟩ := request_ok answered
      have shown := faithful .holding mirrors.holding other words answer
      have same := mirrors.same
      rw [same] at shown read
      dsimp only at shown read
      rw [← address, ← length, ← sent, put_shown, sent] at shown
      rw [shown, decoded, okOr_some, mirrors.unscaled] at read
      refine ⟨_, (Except.ok.inj read).symm, close⟩

/-! A setpoint of 25 kW whose first answer is lost -/

def rackPower : ModbusTcpBinding where
  unitId := some ⟨1, by decide⟩
  address := 100
  scale := 1 / 10
  offset := 0

def lossyLine : WriteLine where
  enable := .ok ()
  valid := .ok ()
  exchange := fun k => (if k = 0 then .failed "response timeout" else .ok (), Duration.fromSecs 5)
  lands := fun _ => true

theorem honest_lossyLine : lossyLine.Honest := by
  refine ⟨fun _ _ => rfl, ?_⟩
  intro k message refused
  unfold lossyLine at refused
  dsimp only at refused
  split at refused <;> simp at refused

def rackReading : MeasurementBinding where
  toModbusTcpBinding := rackPower
  scaleFactorAddress := none

def rackLine : Line (List Register) where
  enable := .ok ()
  valid := .ok ()
  exchange := fun _ => (.ok [0, 250], 0)

theorem setpoint_all_or_nothing_lossy_line :
    (deliverSetpoint rackPower 25 lossyLine fun _ _ => 0).answered.time ≤
      5 * Duration.fromSecs 5 + 31 * (nanosPerSec / 2) :=
  (setpoint_all_or_nothing rackPower 25 honest_lossyLine (fun _ => le_rfl) fun _ _ => 0).2.2.2

theorem acknowledged_setpoint_reads_back_lossy_line :
    ∃ x, F64.finite 25 = .finite x ∧ |x - 25| ≤ |(1 / 10 : ℚ)| / 2 := by
  have mirrors : rackReading.Mirrors rackPower := ⟨rfl, rfl, rfl⟩
  have faithful : Shows rackReading rackLine
      (deliverSetpoint rackPower 25 lossyLine fun _ _ => 0).registers := by
    intro function isHolding k words answer
    obtain rfl := Except.ok.inj isHolding
    obtain rfl := Reply.ok.inj answer
    decide +kernel
  exact acknowledged_setpoint_reads_back (by decide) (by decide +kernel) honest_lossyLine
    (by decide +kernel) mirrors faithful (by decide +kernel : readOn rackReading rackLine rackLine =
      .ok (.finite 25))

end EmsGateway.Modbus
