import LoraNode.EncodeContract
import LoraNode.NodeResponse

/-!
# Every outcome of the response builder

The capacity decides between DATA, the ERROR the builder falls back to, and no
frame at all. A delivered frame is read back through the decoder, so what is
stated here is what the gateway sees.
-/

namespace LoraNode.ResponseOutcome

open LoraNode.Foundation.Bytes LoraNode.PacketRoundTrip
open LoraNode.PacketGrammar hiding node_address_iff
open LoraNode.NodeResponse LoraNode.EncodeContract
open LoraNode.NodePacket hiding isNodeAddress

def failureCode : SensorStatus → Option Byte
  | .initFailed => some 1
  | .readFailed => some 2
  | .valueInvalid => some 3
  | .ok => none
  | .other _ _ => none

def temperatureField (message : Message) : BitVec 16 :=
  joinBytes (message.payload.getD 0 0) (message.payload.getD 1 0)

def humidityField (message : Message) : BitVec 16 :=
  joinBytes (message.payload.getD 2 0) (message.payload.getD 3 0)

structure IsData (sensor : SensorResult) (message : Message) : Prop where
  type : message.type = .data
  temperature : (temperatureField message).toInt = sensor.temperatureX10.toInt
  humidity : (humidityField message).toNat = sensor.humidityX10.toNat

structure IsError (code : Byte) (message : Message) : Prop where
  type : message.type = .error
  code : message.payload.take message.payloadLength.toNat = [code]

/-- `length` bytes were written, nothing past them changed, and they decode to a
message of the request's transaction with this content. -/
structure Delivers (request : Request) (output : List Byte) (outcome : BuildOutcome)
    (length : Nat) (content : Message → Prop) : Prop where
  outputLength : outcome.outputLength = length
  frameLength : outcome.frame.length = length
  sameCapacity : outcome.output.length = output.length
  untouched : outcome.output.drop length = output.drop length
  decoded : ∀ previous, ∃ message, decode (some outcome.frame) previous = (true, message) ∧
    message.source = request.nodeAddress ∧ message.destination = 0 ∧
      message.transactionId = request.transactionId ∧ message.sequence = request.sequence ∧
        content message

/-- A message of the request that is valid and fits is delivered. -/
theorem delivered (request : Request) (message : Message) (output : List Byte)
    (outputLength : Nat) (result : BuildResult) (content : Message → Prop)
    (valid : isMessageValid message = true)
    (room : minLength + message.payloadLength.toNat ≤ output.length)
    (transaction : message.source = request.nodeAddress ∧ message.destination = 0 ∧
      message.transactionId = request.transactionId ∧ message.sequence = request.sequence)
    (carried : content (cleaned message (valid_payload_length message valid))) :
    let encoded := encode message output outputLength
    Delivers request output ⟨result, encoded.output, encoded.outputLength⟩
      (minLength + message.payloadLength.toNat) content := by
  intro encoded
  have size := wire_image_length message (valid_payload_length message valid)
  have written : encoded = _ := encode_eq message output outputLength valid room
  have frame : BuildOutcome.frame ⟨result, encoded.output, encoded.outputLength⟩ =
      wireImage message := by
    rw [written]
    exact List.take_left' size
  constructor
  · rw [written]
  · rw [frame, size]
  · rw [written, List.length_append, size, List.length_drop]
    omega
  · rw [written]
    exact List.drop_left' size
  · intro previous
    refine ⟨cleaned message _, ?_, transaction.1, transaction.2.1, transaction.2.2.1,
      transaction.2.2.2, carried⟩
    rw [frame, decode_eq_parse, parse_wire_image message valid]

section Attempts

variable (request : Request) (address : isNodeAddress request.nodeAddress = true)
  (output : List Byte) (outputLength : Nat)

include address

theorem data_content :
    IsData request.sensor
      (cleaned (dataMessage request)
        (valid_payload_length _ (data_message_valid request address))) := by
  have temperature : temperatureField (cleaned (dataMessage request)
      (valid_payload_length _ (data_message_valid request address))) =
        joinBytes (highByte request.sensor.temperatureX10)
          (lowByte request.sensor.temperatureX10) := rfl
  have humidity : humidityField (cleaned (dataMessage request)
      (valid_payload_length _ (data_message_valid request address))) =
        joinBytes (highByte request.sensor.humidityX10)
          (lowByte request.sensor.humidityX10) := rfl
  refine ⟨rfl, ?_, ?_⟩
  · rw [temperature, joinBytes_split]
  · rw [humidity, joinBytes_split]

theorem error_content (errorCode : ErrorCode) :
    IsError errorCode.toByte
      (cleaned (errorMessage request errorCode)
        (valid_payload_length _ (error_message_valid request errorCode address))) :=
  ⟨rfl, rfl⟩

theorem data_attempt (room : 13 ≤ output.length) :
    let encoded := encode (dataMessage request) output outputLength
    encoded.success = true ∧
      Delivers request output ⟨.dataReady, encoded.output, encoded.outputLength⟩ 13
        (IsData request.sensor) := by
  have valid := data_message_valid request address
  constructor
  · exact (encode_success_iff _ _ _).mpr ⟨valid, room⟩
  · exact delivered request (dataMessage request) output outputLength .dataReady _ valid room
      ⟨rfl, rfl, rfl, rfl⟩ (data_content request address)

theorem error_attempt (errorCode : ErrorCode) (room : 10 ≤ output.length) :
    let outcome := buildError request errorCode output outputLength
    outcome.result = .errorReady ∧
      Delivers request output outcome 10 (IsError errorCode.toByte) := by
  have valid := error_message_valid request errorCode address
  have success : (encode (errorMessage request errorCode) output outputLength).success = true :=
    (encode_success_iff _ _ _).mpr ⟨valid, room⟩
  simp only [buildError, success, Bool.not_true, Bool.false_eq_true, if_false, true_and]
  exact delivered request (errorMessage request errorCode) output outputLength .errorReady _ valid
    room ⟨rfl, rfl, rfl, rfl⟩ (error_content request address errorCode)

omit address in
theorem error_refused (errorCode : ErrorCode) (short : output.length < 10) :
    buildError request errorCode output outputLength = ⟨.localError, output, outputLength⟩ := by
  have refused :
      (encode (errorMessage request errorCode) output outputLength).success = false := by
    rw [← Bool.not_eq_true, encode_success_iff]
    intro fits
    exact absurd fits.2 (Nat.not_le.mpr short)
  simp only [buildError, encode_refused _ _ _ refused, Bool.not_false, if_true]

omit address in
/-- A DATA that does not fit leaves the fallback an untouched buffer. -/
theorem data_refused (short : output.length < 13) :
    encode (dataMessage request) output outputLength = ⟨false, output, outputLength⟩ := by
  apply encode_refused
  rw [← Bool.not_eq_true, encode_success_iff]
  intro fits
  exact absurd fits.2 (Nat.not_le.mpr short)

end Attempts

theorem failure_mapped {status : SensorStatus} {code : Byte}
    (failed : failureCode status = some code) :
    status ≠ .ok ∧ isSensorStatusValid status = true ∧ (mapSensorError status).toByte = code := by
  cases status with
  | ok => simp [failureCode] at failed
  | other value unnamed => simp [failureCode] at failed
  | initFailed => exact ⟨nofun, rfl, Option.some.inj failed⟩
  | readFailed => exact ⟨nofun, rfl, Option.some.inj failed⟩
  | valueInvalid => exact ⟨nofun, rfl, Option.some.inj failed⟩

theorem build_failure (request : Request) (output : List Byte) (outputLength : Nat)
    (address : isNodeAddress request.nodeAddress = true) {code : Byte}
    (failed : failureCode request.sensor.status = some code) :
    build request output outputLength =
      buildError request (mapSensorError request.sensor.status) output outputLength := by
  obtain ⟨notOk, valid, -⟩ := failure_mapped failed
  simp [build, address, notOk, valid]

theorem build_reading (request : Request) (output : List Byte) (outputLength : Nat)
    (address : isNodeAddress request.nodeAddress = true) (ok : request.sensor.status = .ok) :
    build request output outputLength =
      let encoded := encode (dataMessage request) output outputLength
      if encoded.success = true then ⟨.dataReady, encoded.output, encoded.outputLength⟩
      else buildError request .packetBuildFailed encoded.output encoded.outputLength := by
  simp [build, address, ok, isSensorStatusValid]

theorem reading_delivered (request : Request) (output : List Byte) (outputLength : Nat)
    (address : NodeAddress request.nodeAddress) (ok : request.sensor.status = .ok)
    (room : 13 ≤ output.length) :
    let outcome := build request output outputLength
    outcome.result = .dataReady ∧ Delivers request output outcome 13 (IsData request.sensor) := by
  have tested := (node_address_iff _).mpr address
  obtain ⟨success, delivers⟩ := data_attempt request tested output outputLength room
  rw [build_reading request output outputLength tested ok]
  simp only [success, if_true, true_and]
  exact delivers

theorem failure_delivered (request : Request) (output : List Byte) (outputLength : Nat)
    (address : NodeAddress request.nodeAddress) {code : Byte}
    (failed : failureCode request.sensor.status = some code) (room : 10 ≤ output.length) :
    let outcome := build request output outputLength
    outcome.result = .errorReady ∧ Delivers request output outcome 10 (IsError code) := by
  have tested := (node_address_iff _).mpr address
  obtain ⟨-, -, wireCode⟩ := failure_mapped failed
  have attempt := error_attempt request tested output outputLength
    (mapSensorError request.sensor.status) room
  rw [wireCode] at attempt
  rw [build_failure request output outputLength tested failed]
  exact attempt

theorem build_invalid (request : Request) (output : List Byte) (outputLength : Nat)
    (invalid : ¬NodeAddress request.nodeAddress ∨
      ∃ value unnamed, request.sensor.status = .other value unnamed) :
    build request output outputLength = ⟨.invalidArgument, output, outputLength⟩ := by
  rcases invalid with outside | ⟨value, unnamed, status⟩
  · rw [← node_address_iff, Bool.not_eq_true] at outside
    simp [build, outside]
  · simp [build, status, isSensorStatusValid]

/-- Without room for an ERROR nothing is written, whatever was asked for. -/
theorem build_short (request : Request) (output : List Byte) (outputLength : Nat)
    (address : isNodeAddress request.nodeAddress = true)
    (named : request.sensor.status = .ok ∨ ∃ code, failureCode request.sensor.status = some code)
    (short : output.length < 10) :
    build request output outputLength = ⟨.localError, output, outputLength⟩ := by
  rcases named with ok | ⟨code, failed⟩
  · rw [build_reading request output outputLength address ok,
      data_refused request output outputLength (by omega)]
    exact error_refused request output outputLength _ short
  · rw [build_failure request output outputLength address failed,
      error_refused request output outputLength _ short]

/-- Two delivered readings with one frame are one request. -/
theorem delivers_injective {request other : Request} {output output' : List Byte}
    {outcome outcome' : BuildOutcome} {length length' : Nat}
    (first : Delivers request output outcome length (IsData request.sensor))
    (second : Delivers other output' outcome' length' (IsData other.sensor))
    (sameStatus : request.sensor.status = other.sensor.status)
    (sameFrame : outcome.frame = outcome'.frame) : request = other := by
  obtain ⟨message, decoded, source, -, id, sequence, data⟩ := first.decoded .zero
  obtain ⟨message', decoded', source', -, id', sequence', data'⟩ := second.decoded .zero
  rw [sameFrame, decoded', Prod.mk.injEq] at decoded
  obtain ⟨-, rfl⟩ := decoded
  have temperature : request.sensor.temperatureX10 = other.sensor.temperatureX10 :=
    BitVec.eq_of_toInt_eq (data.temperature.symm.trans data'.temperature)
  have humidity : request.sensor.humidityX10 = other.sensor.humidityX10 :=
    BitVec.eq_of_toNat_eq (data.humidity.symm.trans data'.humidity)
  obtain ⟨address, transaction, number, status, celsius, percent⟩ := request
  obtain ⟨address', transaction', number', status', celsius', percent'⟩ := other
  simp_all

/-- The result and the bytes of every request at every capacity, and that no two
delivered readings share a frame. -/
theorem build_outcome (request : Request) (output : List Byte) (outputLength : Nat) :
    let outcome := build request output outputLength
    let reading := NodeAddress request.nodeAddress ∧ request.sensor.status = .ok
    let failure (code : Byte) :=
      NodeAddress request.nodeAddress ∧ failureCode request.sensor.status = some code
    ((¬NodeAddress request.nodeAddress ∨
        ∃ value unnamed, request.sensor.status = .other value unnamed) →
        outcome = ⟨.invalidArgument, output, outputLength⟩) ∧
      (reading → 13 ≤ output.length →
        outcome.result = .dataReady ∧
          Delivers request output outcome 13 (IsData request.sensor)) ∧
      (reading → 10 ≤ output.length → output.length < 13 →
        outcome.result = .errorReady ∧ Delivers request output outcome 10 (IsError 4)) ∧
      (∀ code, failure code → 10 ≤ output.length →
        outcome.result = .errorReady ∧ Delivers request output outcome 10 (IsError code)) ∧
      ((reading ∨ ∃ code, failure code) → output.length < 10 →
        outcome = ⟨.localError, output, outputLength⟩) ∧
      (∀ other output' outputLength', NodeAddress other.nodeAddress → other.sensor.status = .ok →
        reading → 13 ≤ output.length → 13 ≤ output'.length →
          outcome.frame = (build other output' outputLength').frame → request = other) := by
  intro outcome reading failure
  refine ⟨build_invalid request output outputLength, ?_, ?_, ?_, ?_, ?_⟩
  · intro asked room
    exact reading_delivered request output outputLength asked.1 asked.2 room
  · intro asked room short
    have tested := (node_address_iff _).mpr asked.1
    have fallback : outcome = buildError request .packetBuildFailed output outputLength := by
      simp only [outcome]
      rw [build_reading request output outputLength tested asked.2,
        data_refused request output outputLength short]
      rfl
    rw [fallback]
    exact error_attempt request tested output outputLength .packetBuildFailed room
  · intro code asked room
    exact failure_delivered request output outputLength asked.1 asked.2 room
  · intro asked short
    rcases asked with ⟨address, ok⟩ | ⟨code, address, failed⟩
    · exact build_short request output outputLength ((node_address_iff _).mpr address)
        (Or.inl ok) short
    · exact build_short request output outputLength ((node_address_iff _).mpr address)
        (Or.inr ⟨code, failed⟩) short
  · intro other output' outputLength' address ok asked room room' sameFrame
    have first := (reading_delivered request output outputLength asked.1 asked.2 room).2
    have second := (reading_delivered other output' outputLength' address ok room').2
    exact delivers_injective first second (asked.2.trans ok.symm) sameFrame

end LoraNode.ResponseOutcome
