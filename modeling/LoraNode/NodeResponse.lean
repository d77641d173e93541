import LoraNode.PacketRoundTrip

/-!
# The response builder (`node_response.c`, `node_response.h`)

`build` is the source function with its output pointers as results. The lemmas
say which message every outcome carries. Names leave out the prefix
`NODE_RESPONSE_`.
-/

namespace LoraNode.NodeResponse

open LoraNode.Foundation.Bytes LoraNode.NodePacket LoraNode.PacketRoundTrip

inductive SensorStatus where
  | ok
  | initFailed
  | readFailed
  | valueInvalid
  | other (value : Nat) (unnamed : 4 ≤ value)
  deriving DecidableEq

structure SensorResult where
  status : SensorStatus
  temperatureX10 : BitVec 16
  humidityX10 : BitVec 16
  deriving DecidableEq

structure Request where
  nodeAddress : Byte
  transactionId : Byte
  sequence : BitVec 16
  sensor : SensorResult
  deriving DecidableEq

inductive BuildResult where
  | invalidArgument
  | dataReady
  | errorReady
  | localError
  deriving DecidableEq

def isNodeAddress (address : Byte) : Bool :=
  minNodeAddress ≤ address && address ≤ maxNodeAddress

def isSensorStatusValid : SensorStatus → Bool
  | .other _ _ => false
  | .ok => true
  | .initFailed => true
  | .readFailed => true
  | .valueInvalid => true

def putPayload (message : Message) (index : Nat) (value : Byte) : Message :=
  { message with
    payload := message.payload.set index value
    payloadSize := by rw [List.length_set, message.payloadSize] }

def initializeMessage (request : Request) : Message :=
  { Message.zero with
    source := request.nodeAddress
    destination := gatewayAddress
    transactionId := request.transactionId
    sequence := request.sequence }

structure BuildOutcome where
  result : BuildResult
  output : List Byte
  outputLength : Nat
  deriving DecidableEq

def errorMessage (request : Request) (errorCode : ErrorCode) : Message :=
  putPayload
    { initializeMessage request with type := .error, payloadLength := errorPayloadLength }
    0 errorCode.toByte

def buildError (request : Request) (errorCode : ErrorCode) (output : List Byte)
    (outputLength : Nat) : BuildOutcome :=
  let encoded := encode (errorMessage request errorCode) output outputLength
  if !encoded.success then ⟨.localError, encoded.output, encoded.outputLength⟩
  else ⟨.errorReady, encoded.output, encoded.outputLength⟩

def mapSensorError : SensorStatus → ErrorCode
  | .initFailed => .dhtInitFailed
  | .readFailed => .dhtReadFailed
  | .valueInvalid => .dhtValueInvalid
  | .ok => .packetBuildFailed
  | .other _ _ => .packetBuildFailed

def dataMessage (request : Request) : Message :=
  let message :=
    { initializeMessage request with type := .data, payloadLength := dataPayloadLength }
  let message := putPayload message 0 (highByte request.sensor.temperatureX10)
  let message := putPayload message 1 (lowByte request.sensor.temperatureX10)
  let message := putPayload message 2 (highByte request.sensor.humidityX10)
  putPayload message 3 (lowByte request.sensor.humidityX10)

def build (request : Request) (output : List Byte) (outputLength : Nat) : BuildOutcome :=
  if !isNodeAddress request.nodeAddress || !isSensorStatusValid request.sensor.status then
    ⟨.invalidArgument, output, outputLength⟩
  else if request.sensor.status ≠ .ok then
    buildError request (mapSensorError request.sensor.status) output outputLength
  else
    let encoded := encode (dataMessage request) output outputLength
    if encoded.success then ⟨.dataReady, encoded.output, encoded.outputLength⟩
    else buildError request .packetBuildFailed encoded.output encoded.outputLength

def BuildOutcome.frame (outcome : BuildOutcome) : List Byte :=
  outcome.output.take outcome.outputLength

theorem node_address_iff (address : Byte) :
    isNodeAddress address = true ↔ PacketGrammar.NodeAddress address :=
  PacketGrammar.node_address_iff address

theorem error_message_valid (request : Request) (errorCode : ErrorCode)
    (address : isNodeAddress request.nodeAddress = true) :
    isMessageValid (errorMessage request errorCode) = true := by
  rw [PacketGrammar.valid_iff]
  right
  right
  right
  have first : (errorMessage request errorCode).payload.getD 0 0 = errorCode.toByte := rfl
  refine ⟨rfl, (node_address_iff _).mp address, rfl, rfl, ?_⟩
  rw [first]
  cases errorCode <;> decide

theorem data_message_valid (request : Request)
    (address : isNodeAddress request.nodeAddress = true) :
    isMessageValid (dataMessage request) = true := by
  rw [PacketGrammar.valid_iff]
  exact Or.inr (Or.inl ⟨rfl, (node_address_iff _).mp address, rfl, rfl⟩)

def responseMessage (request : Request) : Message :=
  if request.sensor.status = .ok then dataMessage request
  else errorMessage request (mapSensorError request.sensor.status)

theorem response_message_fields (request : Request) :
    let message := responseMessage request
    (message.type = .data ∨ message.type = .error) ∧ message.source = request.nodeAddress ∧
      message.destination = gatewayAddress ∧ message.transactionId = request.transactionId ∧
        message.sequence = request.sequence := by
  simp only [responseMessage]
  split_ifs
  · exact ⟨Or.inl rfl, rfl, rfl, rfl, rfl⟩
  · exact ⟨Or.inr rfl, rfl, rfl, rfl, rfl⟩

theorem response_message_valid (request : Request)
    (address : isNodeAddress request.nodeAddress = true) :
    isMessageValid (responseMessage request) = true := by
  rw [responseMessage]
  split_ifs
  · exact data_message_valid request address
  · exact error_message_valid request _ address

theorem response_message_room (request : Request) :
    minLength + (responseMessage request).payloadLength.toNat ≤ maxLength := by
  have data : (dataMessage request).payloadLength = dataPayloadLength := rfl
  have error : (errorMessage request (mapSensorError request.sensor.status)).payloadLength =
      errorPayloadLength := rfl
  rw [responseMessage]
  split_ifs
  · rw [data]
    decide
  · rw [error]
    decide

/-- A full-size buffer always receives the response, and nothing else fails. -/
theorem build_eq (request : Request) (output : List Byte) (outputLength : Nat)
    (address : isNodeAddress request.nodeAddress = true)
    (status : isSensorStatusValid request.sensor.status = true)
    (room : maxLength ≤ output.length) :
    let encoded := encode (responseMessage request) output outputLength
    encoded.success = true ∧ build request output outputLength =
      ⟨if request.sensor.status = .ok then .dataReady else .errorReady, encoded.output,
        encoded.outputLength⟩ := by
  intro encoded
  have success : encoded.success = true := by
    rw [encode_success_iff]
    exact ⟨response_message_valid request address,
      le_trans (response_message_room request) room⟩
  refine ⟨success, ?_⟩
  simp only [build, address, status, Bool.not_true, Bool.or_self, Bool.false_eq_true, if_false]
  by_cases ok : request.sensor.status = .ok
  · have message : responseMessage request = dataMessage request := if_pos ok
    simp only [encoded, message] at success ⊢
    rw [if_neg (not_not.mpr ok), if_pos success, if_pos ok]
  · have message : responseMessage request =
        errorMessage request (mapSensorError request.sensor.status) := if_neg ok
    simp only [encoded, message] at success ⊢
    rw [if_pos ok, if_neg ok, buildError]
    simp only [success, Bool.not_true, Bool.false_eq_true, if_false]

/-- The frame that reaches the radio is the wire image of the response. -/
theorem build_frame (request : Request) (output : List Byte) (outputLength : Nat)
    (address : isNodeAddress request.nodeAddress = true)
    (status : isSensorStatusValid request.sensor.status = true)
    (room : maxLength ≤ output.length) :
    (build request output outputLength).frame = wireImage (responseMessage request) := by
  obtain ⟨success, outcome⟩ := build_eq request output outputLength address status room
  rw [outcome]
  exact (written_eq_wire_image _ _ _ success).2

end LoraNode.NodeResponse
