import LoraNode.PacketRoundTrip

/-!
# When the encoder writes, and what it leaves alone

The contract of a message is stated type by type, without the encoder's tests.
The encoder accepts it exactly when the frame also fits. Whatever it returns,
no byte past the frame it reports has changed.
-/

namespace LoraNode.EncodeContract

open LoraNode.Foundation.Bytes LoraNode.Crc16 LoraNode.NodePacket LoraNode.PacketGrammar
open LoraNode.PacketRoundTrip

def Contract (message : Message) : Prop :=
  match message.type with
  | .poll =>
      message.source = 0 ∧ NodeAddress message.destination ∧ message.payloadLength = 0 ∧
        message.sequence = 0
  | .data => NodeAddress message.source ∧ message.destination = 0 ∧ message.payloadLength = 4
  | .ack => message.source = 0 ∧ NodeAddress message.destination ∧ message.payloadLength = 0
  | .error =>
      NodeAddress message.source ∧ message.destination = 0 ∧ message.payloadLength = 1 ∧
        ∃ code, message.payload.take 1 = [code] ∧ 1 ≤ code ∧ code ≤ 4
  | .other _ _ => False

/-- Type | Src | Dest | ID | Len | Payload | Seq, then their CRC-16/CCITT-FALSE. -/
def IsFrameOf (message : Message) (bytes : List Byte) : Prop :=
  ∃ crc, IsCcittFalse (coveredBytes message) crc ∧
    bytes = coveredBytes message ++ [highByte crc, lowByte crc]

theorem payload_head (message : Message) :
    message.payload.take 1 = [message.payload.getD 0 0] := by
  have size := message.payloadSize
  cases storage : message.payload with
  | nil => simp [storage, maxPayloadLength] at size
  | cons first rest => simp

theorem valid_iff_contract (message : Message) :
    isMessageValid message = true ↔ Contract message := by
  rw [valid_iff, Contract, payload_head]
  cases message.type with
  | poll => simp
  | data => simp
  | ack => simp
  | error => simp
  | other value unnamed => simp

theorem wire_image_is_frame (message : Message) : IsFrameOf message (wireImage message) :=
  ⟨checksum (coveredBytes message), (checksum_iff _ _).mpr rfl, rfl⟩

/-- A refused message leaves both of the caller's variables alone. -/
theorem encode_refused (message : Message) (output : List Byte) (outputLength : Nat)
    (refused : (encode message output outputLength).success = false) :
    encode message output outputLength = ⟨false, output, outputLength⟩ := by
  by_cases valid : isMessageValid message = true
  · by_cases room : minLength + message.payloadLength.toNat ≤ output.length
    · rw [encode_eq message output outputLength valid room] at refused
      contradiction
    · simp only [encode, valid, Bool.not_true, Bool.false_eq_true, if_false,
        if_pos (Nat.lt_of_not_le room)]
  · simp only [encode, valid, Bool.not_false, if_true]

/-- The encoder succeeds on the contract and the room for it, writes exactly the
frame, and on failure writes nothing. -/
theorem encode_exact (message : Message) (output : List Byte) (outputLength : Nat) :
    let result := encode message output outputLength
    (result.success = true ↔
        Contract message ∧ 9 + message.payloadLength.toNat ≤ output.length) ∧
      (result.success = true →
        result.outputLength = 9 + message.payloadLength.toNat ∧
          IsFrameOf message (result.output.take result.outputLength) ∧
          (result.output.take result.outputLength).length = result.outputLength ∧
          result.output.length = output.length ∧
          result.output.drop result.outputLength = output.drop result.outputLength) ∧
      (result.success = false → result.output = output ∧ result.outputLength = outputLength) := by
  intro result
  have accepted : result.success = true ↔
      Contract message ∧ 9 + message.payloadLength.toNat ≤ output.length := by
    rw [← valid_iff_contract]
    exact encode_success_iff message output outputLength
  refine ⟨accepted, ?_, ?_⟩
  · intro success
    obtain ⟨valid, room⟩ := (encode_success_iff message output outputLength).mp success
    have size := wire_image_length message (valid_payload_length message valid)
    have written := encode_eq message output outputLength valid room
    simp only [result, written]
    rw [List.take_left' size, List.drop_left' size]
    refine ⟨rfl, wire_image_is_frame message, size, ?_, rfl⟩
    rw [List.length_append, size, List.length_drop]
    omega
  · intro failure
    simp only [result, encode_refused message output outputLength failure]
    exact ⟨trivial, trivial⟩

end LoraNode.EncodeContract
