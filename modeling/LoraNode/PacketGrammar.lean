import LoraNode.PacketLayout

/-!
# The V1 grammar and the codec's two directions

The grammar names fields, directions and the checksum polynomial, and neither
offsets nor the loop. The decoder accepts this language and nothing else, and
the encoder and the decoder undo each other.
-/

namespace LoraNode.PacketGrammar

open LoraNode.Foundation.Bytes LoraNode.Crc16 LoraNode.NodePacket

def NodeAddress (address : Byte) : Prop := 0x01 ≤ address ∧ address ≤ 0xFE

instance (address : Byte) : Decidable (NodeAddress address) :=
  inferInstanceAs (Decidable (_ ∧ _))

/-- Type | Src | Dest | ID | Len | Payload | Seq | CRC. -/
structure Frame where
  type : Byte
  source : Byte
  destination : Byte
  id : Byte
  length : Byte
  payload : List Byte
  sequence : BitVec 16
  crc : BitVec 16

def Frame.covered (frame : Frame) : List Byte :=
  [frame.type, frame.source, frame.destination, frame.id, frame.length] ++
    (frame.payload ++ [highByte frame.sequence, lowByte frame.sequence])

def Frame.bytes (frame : Frame) : List Byte :=
  frame.covered ++ [highByte frame.crc, lowByte frame.crc]

def Frame.Contract (frame : Frame) : Prop :=
  (frame.type = 1 ∧ frame.source = 0 ∧ NodeAddress frame.destination ∧ frame.length = 0 ∧
      frame.sequence = 0) ∨
    (frame.type = 2 ∧ NodeAddress frame.source ∧ frame.destination = 0 ∧ frame.length = 4) ∨
    (frame.type = 3 ∧ frame.source = 0 ∧ NodeAddress frame.destination ∧ frame.length = 0) ∨
    (frame.type = 4 ∧ NodeAddress frame.source ∧ frame.destination = 0 ∧ frame.length = 1 ∧
      ∃ code, frame.payload = [code] ∧ 1 ≤ code ∧ code ≤ 4)

structure Frame.WellFormed (frame : Frame) : Prop where
  lengthByte : frame.payload.length = frame.length.toNat
  contract : frame.Contract
  checksum : IsCcittFalse frame.covered frame.crc

/-- The message holds the frame's fields, with the payload storage past Len zero. -/
structure Frame.CarriedBy (frame : Frame) (message : Message) : Prop where
  type : message.type = .ofByte frame.type
  source : message.source = frame.source
  destination : message.destination = frame.destination
  id : message.transactionId = frame.id
  length : message.payloadLength = frame.length
  payload : message.payload =
    frame.payload ++ List.replicate (maxPayloadLength - frame.length.toNat) 0
  sequence : message.sequence = frame.sequence

theorem node_address_iff (address : Byte) : isNodeAddress address = true ↔ NodeAddress address := by
  simp only [isNodeAddress, Bool.and_eq_true, decide_eq_true_eq]
  exact Iff.rfl

theorem known_error_code_iff (code : Byte) :
    isKnownErrorCode code = true ↔ 1 ≤ code ∧ code ≤ 4 := by
  simp only [isKnownErrorCode, Bool.and_eq_true, decide_eq_true_eq]
  exact Iff.rfl

theorem valid_iff (message : Message) :
    isMessageValid message = true ↔
      (message.type = .poll ∧ message.source = 0 ∧ NodeAddress message.destination ∧
          message.payloadLength = 0 ∧ message.sequence = 0) ∨
        (message.type = .data ∧ NodeAddress message.source ∧ message.destination = 0 ∧
          message.payloadLength = 4) ∨
        (message.type = .ack ∧ message.source = 0 ∧ NodeAddress message.destination ∧
          message.payloadLength = 0) ∨
        (message.type = .error ∧ NodeAddress message.source ∧ message.destination = 0 ∧
          message.payloadLength = 1 ∧
          1 ≤ message.payload.getD 0 0 ∧ message.payload.getD 0 0 ≤ 4) := by
  by_cases oversize : maxPayloadLength < message.payloadLength.toNat
  · have notZero : message.payloadLength ≠ 0#8 := by
      intro zero
      simp [zero] at oversize
    have notFour : message.payloadLength ≠ 4#8 := by
      intro four
      simp [four, maxPayloadLength] at oversize
    have notOne : message.payloadLength ≠ 1#8 := by
      intro one
      simp [one, maxPayloadLength] at oversize
    simp only [isMessageValid, if_pos oversize]
    simp [notZero, notFour, notOne]
  · simp only [isMessageValid, if_neg oversize]
    cases message.type <;>
      simp only [Bool.and_eq_true, beq_iff_eq, node_address_iff, known_error_code_iff,
        gatewayAddress, dataPayloadLength, errorPayloadLength, and_assoc, reduceCtorEq, true_and,
        false_and, or_false, false_or, Bool.false_eq_true]

theorem contract_length (frame : Frame) (contract : frame.Contract) :
    frame.length.toNat ≤ maxPayloadLength := by
  rcases contract with ⟨_, _, _, length, _⟩ | ⟨_, _, _, length⟩ | ⟨_, _, _, length⟩ |
    ⟨_, _, _, length, _⟩ <;> simp [length, maxPayloadLength]

theorem type_ofByte_iff (byte : Byte) (type : PacketType) (inByte : type.InByte) :
    PacketType.ofByte byte = type ↔ byte = type.toByte := by
  constructor
  · intro same
    subst same
    simp
  · intro same
    subst same
    exact inByte

theorem contract_iff_valid (frame : Frame) (same : frame.payload.length = frame.length.toNat)
    (fits : frame.length.toNat ≤ maxPayloadLength) :
    isMessageValid (assemble frame.type frame.source frame.destination frame.id frame.length
      frame.payload frame.sequence same fits) = true ↔ frame.Contract := by
  rw [valid_iff]
  simp only [assemble, type_ofByte_iff _ .poll rfl, type_ofByte_iff _ .data rfl,
    type_ofByte_iff _ .ack rfl, type_ofByte_iff _ .error rfl, PacketType.toByte, Frame.Contract]
  have code : frame.length = 1 →
      ((1 ≤ (frame.payload ++
            List.replicate (maxPayloadLength - frame.length.toNat) 0).getD 0 0 ∧
          (frame.payload ++
            List.replicate (maxPayloadLength - frame.length.toNat) 0).getD 0 0 ≤ 4) ↔
        ∃ code, frame.payload = [code] ∧ 1 ≤ code ∧ code ≤ 4) := by
    intro one
    rw [one] at same
    obtain ⟨code, only⟩ := List.length_eq_one_iff.mp same
    simp [only]
  by_cases one : frame.length = 1
  · rw [code one]
  · simp only [one, false_and, and_false]

theorem frame_covered (frame : Frame) (same : frame.payload.length = frame.length.toNat)
    (fits : frame.length.toNat ≤ maxPayloadLength) :
    coveredBytes (assemble frame.type frame.source frame.destination frame.id frame.length
      frame.payload frame.sequence same fits) = frame.covered := by
  rw [covered_assemble, Frame.covered]

theorem checksum_iff (bytes : List Byte) (crc : BitVec 16) :
    IsCcittFalse bytes crc ↔ crc = checksum bytes := by
  rw [← calculate_is_ccitt_false]
  simp [calculateCcittFalse, checksum, eq_comm]

theorem parse_well_formed (frame : Frame) (wellFormed : frame.WellFormed) :
    ∃ decoded, parse frame.bytes = some decoded ∧ frame.CarriedBy decoded := by
  have fits := contract_length frame wellFormed.contract
  let decoded := assemble frame.type frame.source frame.destination frame.id frame.length
    frame.payload frame.sequence wellFormed.lengthByte fits
  have covered : coveredBytes decoded = frame.covered :=
    frame_covered frame wellFormed.lengthByte fits
  refine ⟨decoded, ?_, ?_⟩
  · rw [parse_eq_some_iff]
    refine ⟨(contract_iff_valid frame wellFormed.lengthByte fits).mpr wellFormed.contract,
      assemble_clean _ _ _ _ _ _ _ _ _, ?_⟩
    rw [wireImage, covered, ← (checksum_iff _ _).mp wellFormed.checksum, Frame.bytes]
  · constructor <;> simp [decoded, assemble]

/-- The frame a decoded message came from. -/
theorem well_formed_of_parse (input : List Byte) (decoded : Message)
    (parsed : parse input = some decoded) :
    ∃ frame : Frame, frame.WellFormed ∧ input = frame.bytes := by
  obtain ⟨valid, clean, image⟩ := (parse_eq_some_iff input decoded).mp parsed
  have fits := valid_payload_length decoded valid
  have size := decoded.payloadSize
  simp only [maxPayloadLength] at size
  have same : (decoded.payload.take decoded.payloadLength.toNat).length =
      decoded.payloadLength.toNat := by
    rw [List.length_take, size]
    omega
  let frame : Frame :=
    { type := decoded.type.toByte
      source := decoded.source
      destination := decoded.destination
      id := decoded.transactionId
      length := decoded.payloadLength
      payload := decoded.payload.take decoded.payloadLength.toNat
      sequence := decoded.sequence
      crc := checksum (coveredBytes decoded) }
  have covered : frame.covered = coveredBytes decoded := by
    rw [Frame.covered, coveredBytes]
  have checked : IsCcittFalse frame.covered frame.crc := by
    rw [covered, checksum_iff]
  have bytes : input = frame.bytes := by
    rw [image, wireImage, Frame.bytes, covered]
  refine ⟨frame, ⟨same, ?_, checked⟩, bytes⟩
  rw [← contract_iff_valid frame same fits]
  have inByte := valid_in_byte decoded valid
  exact (congrArg isMessageValid (assemble_fields decoded inByte clean fits same)).trans valid

theorem bytes_length (frame : Frame) (same : frame.payload.length = frame.length.toNat) :
    frame.bytes.length = 9 + frame.length.toNat := by
  simp [Frame.bytes, Frame.covered, same]
  omega

/-- The decoder accepts exactly the grammar, delivers exactly the fields, and a
rejection leaves the caller's message alone. -/
theorem decode_accepts_grammar (input : List Byte) (message : Message) :
    ((decode (some input) message).1 = true ↔
        ∃ frame : Frame, frame.WellFormed ∧ input.length = 9 + frame.length.toNat ∧
          input = frame.bytes) ∧
      (∀ frame : Frame, frame.WellFormed → input = frame.bytes →
        frame.CarriedBy (decode (some input) message).2) ∧
      ((decode (some input) message).1 = false → (decode (some input) message).2 = message) := by
  refine ⟨⟨?_, ?_⟩, ?_, ?_⟩
  · intro success
    obtain ⟨decoded, parsed⟩ := (decode_success_iff input message).mp success
    obtain ⟨frame, wellFormed, bytes⟩ := well_formed_of_parse input decoded parsed
    exact ⟨frame, wellFormed, bytes ▸ bytes_length frame wellFormed.lengthByte, bytes⟩
  · intro found
    obtain ⟨frame, wellFormed, -, rfl⟩ := found
    obtain ⟨decoded, parsed, -⟩ := parse_well_formed frame wellFormed
    exact (decode_success_iff _ message).mpr ⟨decoded, parsed⟩
  · rintro frame wellFormed rfl
    obtain ⟨decoded, parsed, carried⟩ := parse_well_formed frame wellFormed
    simpa only [decode_eq_parse, parsed] using carried
  · intro failure
    rw [decode_eq_parse] at failure ⊢
    cases parsed : parse input with
    | none => rfl
    | some decoded => simp [parsed] at failure

end LoraNode.PacketGrammar
