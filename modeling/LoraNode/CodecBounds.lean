import LoraNode.CodecAccess
import LoraNode.EncodeContract

/-!
# The codec stays inside its arrays

Every access of the encoder and the decoder is in bounds and reads a byte that was
written, for any message, any input and any capacity. The accesses compute what
the codec of whole lists computes, and the checksum never fails.
-/

namespace LoraNode.CodecAccess

open LoraNode.Foundation LoraNode.Foundation.Bytes LoraNode.Foundation.Program
  LoraNode.Foundation.Interference LoraNode.Foundation.Buffers LoraNode.NodePacket
open LoraNode.EncodeContract (encode_refused)
open LoraNode.Crc16 (initialValue updateByte)

section Shared

variable {Buffer : Type} [DecidableEq Buffer] {sizes : Buffer → Nat} {memory : Memory Buffer}

theorem updateBytes_computes {data : Buffer} {bytes : List Byte} (known : memory data = cells bytes)
    (inside : bytes.length ≤ sizes data) (length : Nat) (bound : length ≤ bytes.length) :
    Computes sizes memory (updateBytes data length) (checksum (bytes.take length)) memory := by
  induction length with
  | zero => exact computes_pure initialValue
  | succ byteIndex induction =>
      have found : memory data byteIndex = some bytes[byteIndex] := by
        rw [known]
        exact List.getElem?_eq_getElem bound
      have step : updateByte (checksum (bytes.take byteIndex)) bytes[byteIndex] =
          checksum (bytes.take (byteIndex + 1)) := by
        rw [List.take_succ_eq_append_getElem bound, checksum, checksum, List.foldl_append]
        rfl
      apply computes_bind (induction (by omega))
      apply computes_bind (computes_load (by omega) found)
      rw [← step]
      exact computes_pure _

/-- The checksum of an array does not fail. -/
theorem calculate_computes {data : Buffer} {bytes : List Byte} (known : memory data = cells bytes)
    (inside : bytes.length ≤ sizes data) (length : Nat) (bound : length ≤ bytes.length) :
    Computes sizes memory (calculateCcittFalse (some data) length false)
      (some (checksum (bytes.take length))) memory := by
  have written : ∀ index < length, (memory data index).isSome := by
    intro index before
    rw [known]
    exact cells_written (by omega)
  apply computes_neg (by simp)
  apply computes_bind (computes_lend (by omega) written)
  apply computes_bind (updateBytes_computes known inside length bound)
  exact computes_pure _

theorem isMessageValid_computes {payload : Buffer} (message : Message)
    (known : memory payload = cells message.payload) (inside : 0 < sizes payload) :
    Computes sizes memory (isMessageValid payload (fieldsOf message))
      (NodePacket.isMessageValid message) memory := by
  unfold isMessageValid NodePacket.isMessageValid
  by_cases large : maxPayloadLength < message.payloadLength.toNat
  · rw [if_pos large]
    exact computes_pos large (computes_pure false)
  · rw [if_neg large]
    apply computes_neg large
    cases kind : message.type with
    | poll =>
        simp only [fieldsOf, kind]
        exact computes_pure _
    | data =>
        simp only [fieldsOf, kind]
        exact computes_pure _
    | ack =>
        simp only [fieldsOf, kind]
        exact computes_pure _
    | other value unnamed =>
        simp only [fieldsOf, kind]
        exact computes_pure _
    | error =>
        simp only [fieldsOf, kind]
        have size := message.payloadSize
        have found : memory payload 0 = some (message.payload.getD 0 0) := by
          rw [known]
          exact cells_some (by rw [size, maxPayloadLength]; omega)
        split_ifs with addressed
        · rw [addressed, Bool.true_and]
          apply computes_bind (computes_load inside found)
          exact computes_pure _
        · rw [Bool.not_eq_true] at addressed
          rw [addressed, Bool.false_and]
          exact computes_pure false

end Shared

section Encode

/-- The arrays of `LORA_PACKET_Encode`: `message.payload`, the temporary frame and
the caller's buffer. -/
def encodeSizes (outputCapacity : Nat) : EncodeBuffer → Nat
  | .payload => maxPayloadLength
  | .frame => maxLength
  | .output => outputCapacity

def encodeStart (message : Message) (output : List Byte) : Memory EncodeBuffer
  | .payload => cells message.payload
  | .frame => cells []
  | .output => cells output

variable (message : Message) (output : List Byte)

theorem encode_checks :
    Computes (encodeSizes output.length) (encodeStart message output)
      (isMessageValid .payload (fieldsOf message)) (NodePacket.isMessageValid message)
      (encodeStart message output) :=
  isMessageValid_computes message rfl (show 0 < maxPayloadLength by decide)

theorem encode_rejects (invalid : NodePacket.isMessageValid message = false) :
    Computes (encodeSizes output.length) (encodeStart message output)
      (encode (fieldsOf message) output.length) (.error .invalidMessage)
      (encodeStart message output) := by
  apply computes_bind (encode_checks message output)
  rw [invalid]
  exact computes_pure _

theorem encode_lacks_room (valid : NodePacket.isMessageValid message = true)
    (short : output.length < minLength + message.payloadLength.toNat) :
    Computes (encodeSizes output.length) (encodeStart message output)
      (encode (fieldsOf message) output.length) (.error .noRoom) (encodeStart message output) := by
  apply computes_bind (encode_checks message output)
  rw [valid]
  apply computes_neg (by decide)
  exact computes_pos short (computes_pure _)

def beforeSequence (message : Message) : List Byte :=
  [message.type.toByte, message.source, message.destination, message.transactionId,
      message.payloadLength] ++
    message.payload.take message.payloadLength.toNat

theorem before_sequence_length (fits : message.payloadLength.toNat ≤ 55) :
    (beforeSequence message).length = payloadOffset + message.payloadLength.toNat := by
  have size := message.payloadSize
  simp only [maxPayloadLength] at size
  simp [beforeSequence, size, fits, payloadOffset]
  omega

theorem before_sequence_covered :
    beforeSequence message ++ [highByte message.sequence] ++ [lowByte message.sequence] =
      coveredBytes message := by
  simp [beforeSequence, coveredBytes]

theorem payload_framed (fits : message.payloadLength.toNat ≤ 55) :
    Computes (encodeSizes output.length)
      ((encodeStart message output).holding .frame [message.type.toByte, message.source,
        message.destination, message.transactionId, message.payloadLength])
      (copy .frame payloadOffset .payload 0 message.payloadLength.toNat) ()
      ((encodeStart message output).holding .frame (beforeSequence message)) := by
  have size : message.payload.length = 55 := message.payloadSize
  have frame : encodeSizes output.length .frame = 64 := rfl
  have known : encodeStart message output .payload = cells message.payload := rfl
  apply computes_copy_append (by decide) rfl _ known
  · omega
  · exact Nat.le_of_eq size
  · rw [frame]
    exact Nat.add_le_add (show 5 ≤ 9 by decide) fits

theorem crc_offset_covered (fits : message.payloadLength.toNat ≤ 55) :
    payloadOffset + message.payloadLength.toNat + sequenceSize =
      (coveredBytes message).length := by
  rw [covered_length message fits, payloadOffset, sequenceSize]
  omega

/-- The checksum covers just what has been written. -/
theorem frame_checksummed (fits : message.payloadLength.toNat ≤ 55) :
    Computes (encodeSizes output.length)
      ((encodeStart message output).holding .frame (coveredBytes message))
      (calculateCcittFalse (some .frame)
        (payloadOffset + message.payloadLength.toNat + sequenceSize) false)
      (some (checksum (coveredBytes message)))
      ((encodeStart message output).holding .frame (coveredBytes message)) := by
  have offset := crc_offset_covered message fits
  have inside : (coveredBytes message).length ≤ encodeSizes output.length .frame := by
    rw [covered_length message fits, show encodeSizes output.length .frame = 64 from rfl]
    omega
  have computes := calculate_computes
    (holding_same (encodeStart message output) .frame (coveredBytes message)) inside _
    (Nat.le_of_eq offset)
  rw [List.take_of_length_le (Nat.le_of_eq offset.symm)] at computes
  exact computes

theorem frame_copied (fits : message.payloadLength.toNat ≤ 55)
    (room : minLength + message.payloadLength.toNat ≤ output.length) :
    Computes (encodeSizes output.length)
      ((encodeStart message output).holding .frame (wireImage message))
      (copy .output 0 .frame 0 (minLength + message.payloadLength.toNat)) ()
      (((encodeStart message output).holding .frame (wireImage message)).holding .output
        (copyInto output 0 (wireImage message) (minLength + message.payloadLength.toNat))) := by
  have image := wire_image_length message fits
  have full : (encodeStart message output).holding .frame (wireImage message) .output =
      cells output := holding_other _ (by decide) _
  have available : 0 + (minLength + message.payloadLength.toNat) ≤ (wireImage message).length := by
    rw [image, Nat.zero_add]
  have inside : (wireImage message).length ≤ encodeSizes output.length .frame := by
    rw [image, show encodeSizes output.length .frame = 64 from rfl, minLength]
    omega
  exact computes_copy_into (by decide) full room (Nat.le_refl _) (holding_same _ _ _) available
    inside

/-- What is accepted is written through the frame to the caller's buffer. -/
theorem encode_writes (valid : NodePacket.isMessageValid message = true)
    (room : minLength + message.payloadLength.toNat ≤ output.length) :
    Computes (encodeSizes output.length) (encodeStart message output)
      (encode (fieldsOf message) output.length)
      (.ok (minLength + message.payloadLength.toNat))
      (((encodeStart message output).holding .frame (wireImage message)).holding .output
        (copyInto output 0 (wireImage message) (minLength + message.payloadLength.toNat))) := by
  have fits := valid_payload_length message valid
  have before := before_sequence_length message fits
  have offset := crc_offset_covered message fits
  have frame : encodeSizes output.length .frame = 64 := rfl
  have start : (encodeStart message output).holding .frame [] = encodeStart message output :=
    holding_itself rfl
  have second : (beforeSequence message ++ [highByte message.sequence]).length =
      payloadOffset + message.payloadLength.toNat + 1 := by
    rw [List.length_append, before]
    rfl
  have last : (coveredBytes message ++ [highByte (checksum (coveredBytes message))]).length =
      payloadOffset + message.payloadLength.toNat + sequenceSize + 1 := by
    rw [List.length_append, offset]
    rfl
  apply computes_bind (encode_checks message output)
  rw [valid]
  apply computes_neg (by decide)
  apply computes_neg (Nat.not_lt.mpr room)
  rw [← start, holding_again]
  -- the header, the payload and Seq
  apply computes_bind (computes_push message.type.toByte rfl (show 0 < 64 by decide))
  apply computes_bind (computes_push message.source rfl (show 1 < 64 by decide))
  apply computes_bind (computes_push message.destination rfl (show 2 < 64 by decide))
  apply computes_bind (computes_push message.transactionId rfl (show 3 < 64 by decide))
  apply computes_bind (computes_push message.payloadLength rfl (show 4 < 64 by decide))
  apply computes_bind (payload_framed message output fits)
  apply computes_bind (computes_push (highByte message.sequence) before.symm
    (by rw [before, frame, payloadOffset]; omega))
  apply computes_bind (computes_push (lowByte message.sequence) second.symm
    (by rw [second, frame, payloadOffset]; omega))
  -- the checksum of what is written so far, and the copy
  rw [before_sequence_covered]
  apply computes_bind (frame_checksummed message output fits)
  apply computes_bind (computes_push (highByte (checksum (coveredBytes message))) offset
    (by rw [← offset, frame, payloadOffset, sequenceSize]; omega))
  apply computes_bind (computes_push (lowByte (checksum (coveredBytes message))) last.symm
    (by rw [last, frame, payloadOffset, sequenceSize]; omega))
  rw [List.append_assoc]
  apply computes_bind (frame_copied message output fits room)
  exact computes_pure _

def Encoded (message : Message) (output : List Byte) (result : Except EncodeFailure Nat)
    (after : Memory EncodeBuffer) : Prop :=
  let encoded := NodePacket.encode message output 0
  after .output = cells encoded.output ∧
    match result with
    | .ok frameLength => encoded.success = true ∧ encoded.outputLength = frameLength
    | .error failure => encoded.success = false ∧ failure ≠ .crcFailed

theorem encoded_failure {after : Memory EncodeBuffer} (failure : EncodeFailure)
    (other : failure ≠ .crcFailed) (kept : after .output = cells output)
    (refused : ¬(NodePacket.isMessageValid message = true ∧
      minLength + message.payloadLength.toNat ≤ output.length)) :
    Encoded message output (.error failure) after := by
  have failed : (NodePacket.encode message output 0).success = false := by
    rw [← Bool.not_eq_true, encode_success_iff]
    exact refused
  rw [Encoded, encode_refused message output 0 failed]
  exact ⟨kept, rfl, other⟩

variable {message output} in
theorem encoded_outcome {result : Except EncodeFailure Nat} {after : Memory EncodeBuffer}
    (encoded : Encoded message output result after) : result ≠ .error .crcFailed := by
  intro failed
  subst failed
  exact encoded.2.2 rfl

/-- The encoder computes what the encoder of whole lists does. -/
theorem encode_computes :
    ∃ result after, Computes (encodeSizes output.length) (encodeStart message output)
      (encode (fieldsOf message) output.length) result after ∧
        Encoded message output result after := by
  cases valid : NodePacket.isMessageValid message with
  | false =>
      refine ⟨_, _, encode_rejects message output valid, ?_⟩
      apply encoded_failure message output .invalidMessage (by decide) rfl
      rw [valid]
      exact fun accepted => absurd accepted.1 (by decide)
  | true =>
      by_cases short : output.length < minLength + message.payloadLength.toNat
      · refine ⟨_, _, encode_lacks_room message output valid short, ?_⟩
        apply encoded_failure message output .noRoom (by decide) rfl
        exact fun accepted => Nat.not_le.mpr short accepted.2
      · have room := Nat.le_of_not_lt short
        refine ⟨_, _, encode_writes message output valid room, ?_⟩
        have image := wire_image_length message (valid_payload_length message valid)
        have copied := copyInto_append [] output (wireImage message)
          (minLength + message.payloadLength.toNat) room (Nat.le_of_eq image.symm)
        rw [List.nil_append, List.take_of_length_le (Nat.le_of_eq image)] at copied
        rw [Encoded, encode_eq message output 0 valid room]
        exact ⟨(holding_same _ _ _).trans (congrArg cells copied), rfl, rfl⟩

end Encode

section Decode

/-- The arrays of `LORA_PACKET_Decode`: the input, `decoded.payload` and the payload
of the caller's message. -/
def decodeSizes (inputLength : Nat) : DecodeBuffer → Nat
  | .input => inputLength
  | .decoded => maxPayloadLength
  | .message => maxPayloadLength

def decodeStart (input : List Byte) (message : Message) : Memory DecodeBuffer
  | .input => cells input
  | .decoded => cells Message.zero.payload
  | .message => cells message.payload

def Decoded (input : List Byte) (message : Message) (result : Except DecodeFailure Fields)
    (after : Memory DecodeBuffer) : Prop :=
  match parse input with
  | none => ∃ failure, failure ≠ .crcFailed ∧ result = .error failure ∧
      after .message = cells message.payload
  | some decoded => result = .ok (fieldsOf decoded) ∧ after .message = cells decoded.payload

variable (input : List Byte) (message : Message)

theorem decoded_failure {result : Except DecodeFailure Fields} {after : Memory DecodeBuffer}
    (failure : DecodeFailure) (other : failure ≠ .crcFailed) (rejected : parse input = none)
    (failed : result = .error failure) (kept : after .message = cells message.payload) :
    Decoded input message result after := by
  rw [Decoded, rejected]
  exact ⟨failure, other, failed, kept⟩

variable {input message} in
theorem decoded_outcome {result : Except DecodeFailure Fields} {after : Memory DecodeBuffer}
    (decoded : Decoded input message result after) : result ≠ .error .crcFailed := by
  intro failed
  subst failed
  cases parsed : parse input with
  | none =>
      simp only [Decoded, parsed] at decoded
      obtain ⟨failure, other, same, _⟩ := decoded
      exact other (Except.error.inj same).symm
  | some message' =>
      simp only [Decoded, parsed] at decoded
      exact absurd decoded.1 (by simp)

theorem read_payload (input : List Byte) :
    (readFields input).payload = copyInto Message.zero.payload 0 (input.drop payloadOffset)
      (input.getD lengthOffset 0).toNat := by
  rw [readFields]

def decodeRead : Memory DecodeBuffer :=
  (decodeStart input message).holding .decoded (readFields input).payload

variable {input message}

theorem input_known {index : Nat} (bound : index < input.length) :
    decodeStart input message .input index = some (input.getD index 0) := cells_some bound

theorem read_known {index : Nat} (bound : index < input.length) :
    decodeRead input message .input index = some (input.getD index 0) := by
  rw [decodeRead, holding_other _ (by decide)]
  exact cells_some bound

/-- The payload is copied once the lengths are known to agree. -/
theorem payload_copied (fits : (input.getD lengthOffset 0).toNat ≤ maxPayloadLength)
    (same : input.length = minLength + (input.getD lengthOffset 0).toNat) :
    Computes (decodeSizes input.length) (decodeStart input message)
      (copy .decoded 0 .input payloadOffset (input.getD lengthOffset 0).toNat) ()
      (decodeRead input message) := by
  have available : payloadOffset + (input.getD lengthOffset 0).toNat ≤ input.length := by
    rw [same]
    exact Nat.add_le_add_right (show 5 ≤ 9 by decide) _
  have size : Message.zero.payload.length = maxPayloadLength := Message.zero.payloadSize
  have known : decodeStart input message .input = cells input := rfl
  have full : decodeStart input message .decoded = cells Message.zero.payload := rfl
  rw [decodeRead, read_payload]
  exact computes_copy_into (by decide) full (size.symm ▸ fits) (Nat.le_of_eq size) known
    available (Nat.le_refl _)

theorem fields_read (input : List Byte) :
    fieldsOf (readFields input) =
      ⟨.ofByte (input.getD typeOffset 0), input.getD sourceOffset 0,
        input.getD destinationOffset 0, input.getD idOffset 0, input.getD lengthOffset 0,
        joinBytes (input.getD (payloadOffset + (input.getD lengthOffset 0).toNat) 0)
          (input.getD (payloadOffset + (input.getD lengthOffset 0).toNat + 1) 0)⟩ := by
  rw [fieldsOf, readFields]

/-- The caller's message takes the payload that was read. -/
theorem payload_committed :
    Computes (decodeSizes input.length) (decodeRead input message)
      (copy .message 0 .decoded 0 maxPayloadLength) ()
      ((decodeRead input message).holding .message (readFields input).payload) := by
  have source : (readFields input).payload.length = maxPayloadLength :=
    (readFields input).payloadSize
  have known : decodeRead input message .decoded = cells (readFields input).payload :=
    holding_same _ _ _
  have full : decodeRead input message .message = cells message.payload :=
    holding_other _ (by decide) _
  have whole : copyInto message.payload 0 ((readFields input).payload.drop 0) maxPayloadLength =
      (readFields input).payload := by
    have taken := copyInto_take message.payload (readFields input).payload maxPayloadLength
      (Nat.le_of_eq message.payloadSize.symm) (Nat.le_of_eq source.symm)
    rw [List.take_of_length_le (by rw [copyInto_length]; exact Nat.le_of_eq message.payloadSize),
      List.take_of_length_le (Nat.le_of_eq source)] at taken
    rw [List.drop_zero, taken]
  have room : maxPayloadLength ≤ message.payload.length := by rw [message.payloadSize]
  have size : message.payload.length ≤ decodeSizes input.length .message := by
    rw [message.payloadSize]
    exact Nat.le_refl _
  have available : 0 + maxPayloadLength ≤ (readFields input).payload.length := by
    rw [source, Nat.zero_add]
  have inside : (readFields input).payload.length ≤ decodeSizes input.length .decoded := by
    rw [source]
    exact Nat.le_refl _
  -- unification would unfold `readFields` to find the two lists
  have copies := @computes_copy_into _ _ (decodeSizes input.length) (decodeRead input message)
    .message .decoded message.payload (readFields input).payload 0 maxPayloadLength (by decide)
    full room size known available inside
  rw [whole] at copies
  exact copies

/-- Once the lengths agree the decoder fills `decoded` from the input. -/
theorem decode_reads {result : Except DecodeFailure Fields} {after : Memory DecodeBuffer}
    (inRange : ¬(input.length < minLength ∨ maxLength < input.length))
    (fits : (input.getD lengthOffset 0).toNat ≤ maxPayloadLength)
    (same : input.length = minLength + (input.getD lengthOffset 0).toNat)
    (accepts : Computes (decodeSizes input.length) (decodeRead input message)
      (acceptDecoded .input (payloadOffset + (input.getD lengthOffset 0).toNat)
        (fieldsOf (readFields input))) result after) :
    Computes (decodeSizes input.length) (decodeStart input message)
      (decode (some .input) input.length) result after := by
  have header {index : Nat} (early : index < 9) :
      Computes (decodeSizes input.length) (decodeStart input message) (load .input index)
        (input.getD index 0) (decodeStart input message) := by
    have bound : index < input.length := by
      rw [same]
      exact Nat.lt_add_right _ early
    exact computes_load bound (input_known bound)
  have sequence {index : Nat} (early : index < 4) :
      Computes (decodeSizes input.length) (decodeRead input message)
        (load .input (payloadOffset + (input.getD lengthOffset 0).toNat + index))
        (input.getD (payloadOffset + (input.getD lengthOffset 0).toNat + index) 0)
        (decodeRead input message) := by
    have bound : payloadOffset + (input.getD lengthOffset 0).toNat + index < input.length := by
      rw [same, minLength, payloadOffset]
      omega
    exact computes_load bound (read_known bound)
  rw [fields_read] at accepts
  apply computes_neg inRange
  apply computes_bind (header (by decide))
  apply computes_neg (Nat.not_lt.mpr fits)
  apply computes_neg (not_not_intro same)
  apply computes_bind (header (by decide))
  apply computes_bind (header (by decide))
  apply computes_bind (header (by decide))
  apply computes_bind (header (by decide))
  apply computes_bind (payload_copied fits same)
  apply computes_bind (sequence (show 0 < 4 by decide))
  apply computes_bind (sequence (show 1 < 4 by decide))
  exact accepts

theorem accept_checks :
    Computes (decodeSizes input.length) (decodeRead input message)
      (isMessageValid .decoded (fieldsOf (readFields input)))
      (NodePacket.isMessageValid (readFields input)) (decodeRead input message) :=
  isMessageValid_computes _ (holding_same _ _ _) (show 0 < 55 by decide)

theorem accept_rejects (invalid : NodePacket.isMessageValid (readFields input) = false)
    (sequenceOffset : Nat) :
    Computes (decodeSizes input.length) (decodeRead input message)
      (acceptDecoded .input sequenceOffset (fieldsOf (readFields input)))
      (.error .invalidMessage) (decodeRead input message) := by
  apply computes_bind accept_checks
  rw [invalid]
  exact computes_pure _

/-- The received checksum follows what the calculated one covers. -/
theorem accept_compares {result : Except DecodeFailure Fields} {after : Memory DecodeBuffer}
    {sequenceOffset : Nat} (valid : NodePacket.isMessageValid (readFields input) = true)
    (ends : sequenceOffset + sequenceSize + 2 = input.length)
    (compared : Computes (decodeSizes input.length) (decodeRead input message)
      (if readCrc input (sequenceOffset + sequenceSize) ≠
          checksum (input.take (sequenceOffset + sequenceSize)) then
        return .error .crcMismatch
      else do
        copy .message 0 .decoded 0 maxPayloadLength
        return .ok (fieldsOf (readFields input))) result after) :
    Computes (decodeSizes input.length) (decodeRead input message)
      (acceptDecoded .input sequenceOffset (fieldsOf (readFields input))) result after := by
  have known : decodeRead input message .input = cells input := holding_other _ (by decide) _
  have calculates := @calculate_computes _ _ (decodeSizes input.length) _ _ _ known
    (Nat.le_refl input.length) (sequenceOffset + sequenceSize) (by omega)
  have received {index : Nat} (bound : index < input.length) :
      Computes (decodeSizes input.length) (decodeRead input message) (load .input index)
        (input.getD index 0) (decodeRead input message) := computes_load bound (read_known bound)
  apply computes_bind accept_checks
  rw [valid]
  apply computes_neg (by decide)
  apply computes_bind calculates
  apply computes_bind (received (by omega))
  apply computes_bind (received (by omega))
  exact compared

theorem parse_fits (inRange : ¬(input.length < minLength ∨ maxLength < input.length))
    (fits : (input.getD lengthOffset 0).toNat ≤ maxPayloadLength)
    (same : input.length = minLength + (input.getD lengthOffset 0).toNat) :
    parse input = if !NodePacket.isMessageValid (readFields input) then none
      else if readCrc input (payloadOffset + (input.getD lengthOffset 0).toNat + sequenceSize) ≠
        checksum (input.take (payloadOffset + (input.getD lengthOffset 0).toNat + sequenceSize))
      then none else some (readFields input) := by
  rw [parse, if_neg inRange, if_neg (Nat.not_lt.mpr fits), if_neg (not_not_intro same)]
  rfl

/-- What is left once `decoded` is filled. -/
theorem accept_computes (inRange : ¬(input.length < minLength ∨ maxLength < input.length))
    (fits : (input.getD lengthOffset 0).toNat ≤ maxPayloadLength)
    (same : input.length = minLength + (input.getD lengthOffset 0).toNat) :
    ∃ result after, Computes (decodeSizes input.length) (decodeRead input message)
      (acceptDecoded .input (payloadOffset + (input.getD lengthOffset 0).toNat)
        (fieldsOf (readFields input))) result after ∧ Decoded input message result after := by
  have kept : decodeRead input message .message = cells message.payload :=
    holding_other _ (by decide) _
  have parsed := parse_fits inRange fits same
  have ends : payloadOffset + (input.getD lengthOffset 0).toNat + sequenceSize + 2 =
      input.length := by
    rw [same, minLength, payloadOffset, sequenceSize]
    omega
  cases valid : NodePacket.isMessageValid (readFields input) with
  | false =>
      refine ⟨.error .invalidMessage, decodeRead input message, accept_rejects valid _, ?_⟩
      apply decoded_failure input message .invalidMessage (by decide) _ rfl kept
      rw [parsed, valid]
      rfl
  | true =>
      rw [if_neg (by rw [valid]; decide)] at parsed
      by_cases differs : readCrc input (payloadOffset + (input.getD lengthOffset 0).toNat +
          sequenceSize) ≠ checksum (input.take (payloadOffset +
            (input.getD lengthOffset 0).toNat + sequenceSize))
      · refine ⟨.error .crcMismatch, decodeRead input message, ?_, ?_⟩
        · exact accept_compares valid ends (computes_pos differs (computes_pure _))
        · apply decoded_failure input message .crcMismatch (by decide) _ rfl kept
          rw [parsed, if_pos differs]
      · refine ⟨.ok (fieldsOf (readFields input)),
          (decodeRead input message).holding .message (readFields input).payload, ?_, ?_⟩
        · exact accept_compares valid ends
            (computes_neg differs (computes_bind payload_committed (computes_pure _)))
        · rw [Decoded, parsed, if_neg differs]
          exact ⟨rfl, holding_same _ _ _⟩

/-- The decoder computes what the decoder of whole lists does. -/
theorem decode_computes (input : List Byte) (message : Message) :
    ∃ result after, Computes (decodeSizes input.length) (decodeStart input message)
      (decode (some .input) input.length) result after ∧ Decoded input message result after := by
  by_cases outside : input.length < minLength ∨ maxLength < input.length
  · have rejected : parse input = none := if_pos outside
    exact ⟨.error .badLength, decodeStart input message, computes_pos outside (computes_pure _),
      decoded_failure input message .badLength (by decide) rejected rfl rfl⟩
  have long : 9 ≤ input.length := Nat.le_of_not_lt fun short => outside (.inl short)
  have lengthRead : Computes (decodeSizes input.length) (decodeStart input message)
      (load .input lengthOffset) (input.getD lengthOffset 0) (decodeStart input message) :=
    computes_load (show 4 < input.length by omega) (input_known (show 4 < input.length by omega))
  by_cases large : maxPayloadLength < (input.getD lengthOffset 0).toNat
  · have rejected : parse input = none := by
      rw [parse, if_neg outside, if_pos large]
    exact ⟨.error .badPayloadLength, decodeStart input message,
      computes_neg outside (computes_bind lengthRead (computes_pos large (computes_pure _))),
      decoded_failure input message .badPayloadLength (by decide) rejected rfl rfl⟩
  by_cases differs : input.length ≠ minLength + (input.getD lengthOffset 0).toNat
  · have rejected : parse input = none := by
      rw [parse, if_neg outside, if_neg large, if_pos differs]
    exact ⟨.error .lengthMismatch, decodeStart input message,
      computes_neg outside (computes_bind lengthRead
        (computes_neg large (computes_pos differs (computes_pure _)))),
      decoded_failure input message .lengthMismatch (by decide) rejected rfl rfl⟩
  have fits : (input.getD lengthOffset 0).toNat ≤ maxPayloadLength := Nat.le_of_not_lt large
  have same : input.length = minLength + (input.getD lengthOffset 0).toNat :=
    Decidable.not_not.mp differs
  obtain ⟨result, after, accepts, decoded⟩ := @accept_computes input message outside fits same
  exact ⟨result, after, decode_reads outside fits same accepts, decoded⟩

end Decode

/-- For any input the decoder and for any message and capacity the encoder stays in
bounds, reads what was written, and is never failed by the checksum. -/
theorem codec_stays_in_bounds :
    (∀ (input : List Byte) (message : Message),
      Always (arrays (decodeSizes input.length)) (defined (decodeSizes input.length))
        (fun memory => memory = decodeStart input message) (decode (some .input) input.length)
        fun result _ => result ≠ .error .crcFailed) ∧
    (∀ (message : Message) (output : List Byte),
      Always (arrays (encodeSizes output.length)) (defined (encodeSizes output.length))
        (fun memory => memory = encodeStart message output)
        (encode (fieldsOf message) output.length)
        fun result _ => result ≠ .error .crcFailed) := by
  constructor
  · intro input message
    obtain ⟨result, after, computes, decoded⟩ := decode_computes input message
    exact computes_always computes (decoded_outcome decoded)
  · intro message output
    obtain ⟨result, after, computes, encoded⟩ := encode_computes message output
    exact computes_always computes (encoded_outcome encoded)

end LoraNode.CodecAccess
