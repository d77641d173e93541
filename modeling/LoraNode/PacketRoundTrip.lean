import LoraNode.PacketGrammar

/-!
# Encode and decode undo each other

Both directions go through the wire image. The only information an encoding
drops is the payload storage past Len, so messages are compared by content.
-/

namespace LoraNode.PacketRoundTrip

open LoraNode.Foundation.Bytes LoraNode.Crc16 LoraNode.NodePacket

structure SameContent (left right : Message) : Prop where
  type : left.type = right.type
  source : left.source = right.source
  destination : left.destination = right.destination
  transactionId : left.transactionId = right.transactionId
  payloadLength : left.payloadLength = right.payloadLength
  payload : left.payload.take left.payloadLength.toNat =
    right.payload.take right.payloadLength.toNat
  sequence : left.sequence = right.sequence

theorem SameContent.symm {left right : Message} (same : SameContent left right) :
    SameContent right left :=
  ⟨same.type.symm, same.source.symm, same.destination.symm, same.transactionId.symm,
    same.payloadLength.symm, same.payload.symm, same.sequence.symm⟩

theorem SameContent.trans {left middle right : Message} (first : SameContent left middle)
    (second : SameContent middle right) : SameContent left right :=
  ⟨first.type.trans second.type, first.source.trans second.source,
    first.destination.trans second.destination,
    first.transactionId.trans second.transactionId,
    first.payloadLength.trans second.payloadLength, first.payload.trans second.payload,
    first.sequence.trans second.sequence⟩

/-- The message the decoder returns: the same content, storage past Len zero. -/
def cleaned (message : Message) (fits : message.payloadLength.toNat ≤ maxPayloadLength) :
    Message :=
  { message with
    payload := message.payload.take message.payloadLength.toNat ++
      List.replicate (maxPayloadLength - message.payloadLength.toNat) 0
    payloadSize := by
      have size := message.payloadSize
      rw [List.length_append, List.length_take, size, List.length_replicate]
      omega }

theorem cleaned_take (message : Message)
    (fits : message.payloadLength.toNat ≤ maxPayloadLength) :
    (cleaned message fits).payload.take message.payloadLength.toNat =
      message.payload.take message.payloadLength.toNat := by
  have size := message.payloadSize
  have taken : (message.payload.take message.payloadLength.toNat).length =
      message.payloadLength.toNat := by
    rw [List.length_take, size]
    omega
  exact List.take_left' taken

theorem cleaned_content (message : Message)
    (fits : message.payloadLength.toNat ≤ maxPayloadLength) :
    SameContent message (cleaned message fits) :=
  ⟨rfl, rfl, rfl, rfl, rfl, (cleaned_take message fits).symm, rfl⟩

theorem cleaned_clean (message : Message)
    (fits : message.payloadLength.toNat ≤ maxPayloadLength) : Clean (cleaned message fits) := by
  rw [Clean]
  change (cleaned message fits).payload =
    (cleaned message fits).payload.take message.payloadLength.toNat ++ _
  rw [cleaned_take]
  rfl

/-- Bytes and validity depend on the content alone. -/
theorem covered_content {left right : Message} (same : SameContent left right) :
    coveredBytes left = coveredBytes right := by
  simp only [coveredBytes, same.type, same.source, same.destination, same.transactionId,
    same.payload, same.sequence]
  rw [same.payloadLength]

theorem wire_image_content {left right : Message} (same : SameContent left right) :
    wireImage left = wireImage right := by
  rw [wireImage, wireImage, covered_content same]

theorem valid_content {left right : Message} (same : SameContent left right)
    (valid : isMessageValid left = true) : isMessageValid right = true := by
  rw [PacketGrammar.valid_iff] at valid ⊢
  rw [← same.type, ← same.source, ← same.destination, ← same.payloadLength, ← same.sequence]
  rcases valid with poll | data | ack | ⟨type, source, destination, one, code⟩
  · exact Or.inl poll
  · exact Or.inr (Or.inl data)
  · exact Or.inr (Or.inr (Or.inl ack))
  · have rightOne : right.payloadLength = 1 := same.payloadLength ▸ one
    have heads : left.payload.getD 0 0 = right.payload.getD 0 0 := by
      have taken := congrArg (fun bytes : List Byte => bytes.getD 0 0) same.payload
      simpa [one, rightOne, List.getD_eq_getElem?_getD, List.getElem?_take] using taken
    exact Or.inr (Or.inr (Or.inr ⟨type, source, destination, one, heads ▸ code⟩))

/-- Decoding a wire image returns the content. -/
theorem parse_wire_image (message : Message) (valid : isMessageValid message = true) :
    parse (wireImage message) =
      some (cleaned message (valid_payload_length message valid)) := by
  have fits := valid_payload_length message valid
  have same := cleaned_content message fits
  rw [parse_eq_some_iff]
  exact ⟨valid_content same valid, cleaned_clean message fits, wire_image_content same⟩

def written (result : EncodeResult) : List Byte := result.output.take result.outputLength

theorem written_eq_wire_image (message : Message) (output : List Byte) (outputLength : Nat)
    (success : (encode message output outputLength).success = true) :
    isMessageValid message = true ∧ written (encode message output outputLength) =
      wireImage message := by
  obtain ⟨valid, room⟩ := (encode_success_iff message output outputLength).mp success
  refine ⟨valid, ?_⟩
  rw [encode_eq message output outputLength valid room, written]
  exact List.take_left' (wire_image_length message (valid_payload_length message valid))

/-- Encoding then decoding returns the content with a clean tail; decoding then
encoding returns the bytes; so encoding is injective on content and every valid
message has one wire image. -/
theorem codec_mutually_inverse :
    (∀ message output outputLength previous,
        (encode message output outputLength).success = true →
          let decoded := decode (some (written (encode message output outputLength))) previous
          decoded.1 = true ∧ SameContent message decoded.2 ∧ Clean decoded.2) ∧
      (∀ input previous output outputLength,
        (decode (some input) previous).1 = true → input.length ≤ output.length →
          let result := encode (decode (some input) previous).2 output outputLength
          result.success = true ∧ result.outputLength = input.length ∧ written result = input) ∧
      (∀ left right output output' outputLength outputLength',
        (encode left output outputLength).success = true →
          (encode right output' outputLength').success = true →
            written (encode left output outputLength) =
              written (encode right output' outputLength') → SameContent left right) ∧
      (∀ message previous, isMessageValid message = true →
        ∃! input, (decode (some input) previous).1 = true ∧
          SameContent message (decode (some input) previous).2) := by
  refine ⟨?_, ?_, ?_, ?_⟩
  · intro message output outputLength previous success
    obtain ⟨valid, image⟩ := written_eq_wire_image message output outputLength success
    simp only [image, decode_eq_parse, parse_wire_image message valid]
    exact ⟨trivial, cleaned_content _ _, cleaned_clean _ _⟩
  · intro input previous output outputLength accepted room
    obtain ⟨decoded, parsed⟩ := (decode_success_iff input previous).mp accepted
    obtain ⟨valid, -, image⟩ := (parse_eq_some_iff input decoded).mp parsed
    have size := wire_image_length decoded (valid_payload_length decoded valid)
    rw [← image] at size
    simp only [decode_eq_parse, parsed]
    rw [encode_eq decoded output outputLength valid (by omega)]
    exact ⟨rfl, size.symm, by rw [written, ← image, ← size, List.take_left]⟩
  · intro left right output output' outputLength outputLength' leftSuccess rightSuccess same
    obtain ⟨leftValid, leftImage⟩ := written_eq_wire_image left output outputLength leftSuccess
    obtain ⟨rightValid, rightImage⟩ :=
      written_eq_wire_image right output' outputLength' rightSuccess
    have decoded := parse_wire_image left leftValid
    rw [← leftImage, same, rightImage, parse_wire_image right rightValid] at decoded
    have cleanedSame := Option.some.inj decoded
    exact (cleaned_content left _).trans
      (cleanedSame ▸ (cleaned_content right (valid_payload_length right rightValid)).symm)
  · intro message previous valid
    refine ⟨wireImage message, ?_, ?_⟩
    · simp only [decode_eq_parse, parse_wire_image message valid]
      exact ⟨trivial, cleaned_content _ _⟩
    · intro input found
      obtain ⟨accepted, same⟩ := found
      obtain ⟨decoded, parsed⟩ := (decode_success_iff input previous).mp accepted
      obtain ⟨-, -, image⟩ := (parse_eq_some_iff input decoded).mp parsed
      simp only [decode_eq_parse, parsed] at same
      rw [image, wire_image_content same]

end LoraNode.PacketRoundTrip
