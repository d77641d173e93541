import LoraNode.NodePacket

/-!
# Where the codec puts each byte

The encoder writes through computed offsets and the decoder reads through its
own. Both meet at `wireImage`: a valid message encodes to it, and the decoder
accepts exactly the wire images of valid messages with a clean payload tail.
-/

namespace LoraNode.NodePacket

open LoraNode.Foundation.Bytes LoraNode.Crc16

def checksum (bytes : List Byte) : BitVec 16 := bytes.foldl updateByte initialValue

theorem calculate_prefix (covered rest : List Byte) :
    calculateCcittFalse (some (covered ++ rest)) covered.length = some (checksum covered) := by
  simp [calculateCcittFalse, checksum]

def coveredBytes (message : Message) : List Byte :=
  [message.type.toByte, message.source, message.destination, message.transactionId,
      message.payloadLength] ++
    (message.payload.take message.payloadLength.toNat ++
      [highByte message.sequence, lowByte message.sequence])

def wireImage (message : Message) : List Byte :=
  coveredBytes message ++
    [highByte (checksum (coveredBytes message)), lowByte (checksum (coveredBytes message))]

def Clean (message : Message) : Prop :=
  message.payload =
    message.payload.take message.payloadLength.toNat ++
      List.replicate (maxPayloadLength - message.payloadLength.toNat) 0

theorem covered_length (message : Message) (fits : message.payloadLength.toNat ≤ 55) :
    (coveredBytes message).length = 7 + message.payloadLength.toNat := by
  have size := message.payloadSize
  simp only [maxPayloadLength] at size
  simp [coveredBytes, size, fits]
  omega

theorem wire_image_length (message : Message) (fits : message.payloadLength.toNat ≤ 55) :
    (wireImage message).length = minLength + message.payloadLength.toNat := by
  simp only [wireImage, List.length_append, covered_length message fits, minLength,
    List.length_cons, List.length_nil]
  omega

theorem valid_payload_length (message : Message) (valid : isMessageValid message = true) :
    message.payloadLength.toNat ≤ 55 := by
  by_contra large
  have oversize : maxPayloadLength < message.payloadLength.toNat := by
    simp only [maxPayloadLength]
    omega
  simp [isMessageValid, oversize] at valid

theorem valid_in_byte (message : Message) (valid : isMessageValid message = true) :
    message.type.InByte := by
  cases kind : message.type with
  | poll => rfl
  | data => rfl
  | ack => rfl
  | error => rfl
  | other value unnamed => simp [isMessageValid, kind] at valid

theorem write_header (type source destination id length : Byte) :
    (((((List.replicate maxLength 0).set typeOffset type).set sourceOffset source).set
      destinationOffset destination).set idOffset id).set lengthOffset length =
        [type, source, destination, id, length] ++ List.replicate 59 0 := by
  rfl

theorem write_frame_eq (message : Message) (fits : message.payloadLength.toNat ≤ 55) :
    writeHeaderPayloadSequence message =
      coveredBytes message ++ List.replicate (57 - message.payloadLength.toNat) 0 := by
  let header : List Byte := [message.type.toByte, message.source, message.destination,
    message.transactionId, message.payloadLength]
  let payload := message.payload.take message.payloadLength.toNat
  let rest : List Byte := List.replicate (57 - message.payloadLength.toNat) 0
  have size := message.payloadSize
  simp only [maxPayloadLength] at size
  have payloadLength : payload.length = message.payloadLength.toNat := by
    simp [payload, size, fits]
  have headerLength : header.length = payloadOffset := rfl
  have zeros : 59 - message.payloadLength.toNat = 57 - message.payloadLength.toNat + 2 := by
    omega
  have tail : (List.replicate 59 (0 : Byte)).drop message.payloadLength.toNat =
      0 :: 0 :: rest := by
    rw [List.drop_replicate, zeros]
    rfl
  have copied := copyInto_append header (List.replicate 59 0) message.payload
    message.payloadLength.toNat (by simp; omega) (by omega)
  rw [tail, ← List.append_assoc, headerLength] at copied
  have position : payloadOffset + message.payloadLength.toNat = (header ++ payload).length := by
    rw [List.length_append, payloadLength, headerLength]
  have stored := set_append_pair (header ++ payload) rest 0 0 (highByte message.sequence)
    (lowByte message.sequence)
  rw [← position] at stored
  simp only [writeHeaderPayloadSequence, write_header]
  change ((copyInto (header ++ List.replicate 59 0) payloadOffset message.payload
    message.payloadLength.toNat).set _ _).set _ _ = _
  rw [copied, stored]
  simp [coveredBytes, header, payload, rest]

/-- A valid message that fits is written as its wire image; nothing else of the
caller's buffer changes. -/
theorem encode_eq (message : Message) (output : List Byte) (outputLength : Nat)
    (valid : isMessageValid message = true)
    (room : minLength + message.payloadLength.toNat ≤ output.length) :
    encode message output outputLength =
      ⟨true, wireImage message ++ output.drop (minLength + message.payloadLength.toNat),
        minLength + message.payloadLength.toNat⟩ := by
  have fits := valid_payload_length message valid
  have covered := covered_length message fits
  have zeros : 57 - message.payloadLength.toNat = 55 - message.payloadLength.toNat + 2 := by
    omega
  have position : payloadOffset + message.payloadLength.toNat + sequenceSize =
      (coveredBytes message).length := by
    rw [covered, payloadOffset, sequenceSize]
    omega
  have crc := calculate_prefix (coveredBytes message)
    (List.replicate (57 - message.payloadLength.toNat) 0)
  let high := highByte (checksum (coveredBytes message))
  let low := lowByte (checksum (coveredBytes message))
  let rest : List Byte := List.replicate (55 - message.payloadLength.toNat) 0
  have stored : ((coveredBytes message ++
      List.replicate (57 - message.payloadLength.toNat) 0).set (coveredBytes message).length
        high).set ((coveredBytes message).length + 1) low = wireImage message ++ rest := by
    have pair := set_append_pair (coveredBytes message) rest 0 0 high low
    rw [zeros]
    exact pair.trans (by simp [wireImage, high, low])
  have copied := copyInto_append [] output (wireImage message ++ rest)
    (minLength + message.payloadLength.toNat) room
    (by simp [wire_image_length message fits])
  rw [List.nil_append, List.length_nil, ← wire_image_length message fits, List.take_left,
    List.nil_append] at copied
  simp only [encode, valid, Bool.not_true, Bool.false_eq_true, if_false,
    if_neg (Nat.not_lt.mpr room), position, write_frame_eq message fits, crc]
  rw [stored, ← wire_image_length message fits, copied]

theorem encode_success_iff (message : Message) (output : List Byte) (outputLength : Nat) :
    (encode message output outputLength).success = true ↔
      isMessageValid message = true ∧
        minLength + message.payloadLength.toNat ≤ output.length := by
  constructor
  · intro success
    cases valid : isMessageValid message with
    | false => simp [encode, valid] at success
    | true =>
        refine ⟨rfl, ?_⟩
        by_contra short
        simp [encode, valid, Nat.lt_of_not_le short] at success
  · intro found
    obtain ⟨valid, room⟩ := found
    rw [encode_eq message output outputLength valid room]

/-- The message made of the fields of a frame whose Len byte is the payload's
length. -/
def assemble (type source destination id length : Byte) (payload : List Byte)
    (sequence : BitVec 16) (same : payload.length = length.toNat)
    (fits : length.toNat ≤ maxPayloadLength) : Message where
  type := .ofByte type
  source := source
  destination := destination
  transactionId := id
  payloadLength := length
  payload := payload ++ List.replicate (maxPayloadLength - length.toNat) 0
  sequence := sequence
  payloadSize := by
    rw [List.length_append, same, List.length_replicate]
    omega

theorem covered_assemble (type source destination id length : Byte) (payload : List Byte)
    (sequence : BitVec 16) (same : payload.length = length.toNat)
    (fits : length.toNat ≤ maxPayloadLength) :
    coveredBytes (assemble type source destination id length payload sequence same fits) =
      [type, source, destination, id, length] ++
        (payload ++ [highByte sequence, lowByte sequence]) := by
  simp only [coveredBytes, assemble, PacketType.toByte_ofByte, ← same, List.take_left]

theorem assemble_clean (type source destination id length : Byte) (payload : List Byte)
    (sequence : BitVec 16) (same : payload.length = length.toNat)
    (fits : length.toNat ≤ maxPayloadLength) :
    Clean (assemble type source destination id length payload sequence same fits) := by
  simp only [Clean, assemble, ← same, List.take_left]

theorem assemble_fields (message : Message) (inByte : message.type.InByte)
    (clean : Clean message) (fits : message.payloadLength.toNat ≤ maxPayloadLength)
    (same : (message.payload.take message.payloadLength.toNat).length =
      message.payloadLength.toNat) :
    assemble message.type.toByte message.source message.destination message.transactionId
      message.payloadLength (message.payload.take message.payloadLength.toNat) message.sequence
      same fits = message := by
  apply Message.ext <;> simp only [assemble]
  · exact inByte
  · exact clean.symm

def layout (type source destination id length : Byte) (payload : List Byte)
    (high low crcHigh crcLow : Byte) : List Byte :=
  [type, source, destination, id, length] ++ (payload ++ [high, low, crcHigh, crcLow])

section Layout

variable (type source destination id length high low crcHigh crcLow : Byte) (payload : List Byte)
  (same : payload.length = length.toNat) (fits : length.toNat ≤ maxPayloadLength)

include same

theorem layout_length :
    (layout type source destination id length payload high low crcHigh crcLow).length =
      minLength + length.toNat := by
  simp [layout, minLength, same]
  omega

theorem layout_after_payload (place : Nat) :
    (layout type source destination id length payload high low crcHigh crcLow).getD
      (payloadOffset + length.toNat + place) 0 = [high, low, crcHigh, crcLow].getD place 0 := by
  have past : payloadOffset + length.toNat + place -
      [type, source, destination, id, length].length - payload.length = place := by
    simp only [payloadOffset, same, List.length_cons, List.length_nil]
    omega
  rw [layout, List.getD_append_right _ _ _ _ (by simp [payloadOffset]; omega),
    List.getD_append_right _ _ _ _ (by simp [payloadOffset, same]; omega), past]

theorem read_fields_layout :
    readFields (layout type source destination id length payload high low crcHigh crcLow) =
      assemble type source destination id length payload (joinBytes high low) same fits := by
  have highPlace := layout_after_payload type source destination id length high low crcHigh crcLow
    payload same 0
  have lowPlace := layout_after_payload type source destination id length high low crcHigh crcLow
    payload same 1
  have copied := copyInto_append [] (List.replicate maxPayloadLength 0)
    (payload ++ [high, low, crcHigh, crcLow]) length.toNat (by simpa using fits) (by simp [same])
  rw [← same, List.take_left, List.drop_replicate, same] at copied
  let input := layout type source destination id length payload high low crcHigh crcLow
  have lengthByte : input.getD lengthOffset 0 = length := rfl
  have dropped : input.drop payloadOffset = payload ++ [high, low, crcHigh, crcLow] := rfl
  have zeros : Message.zero.payload = List.replicate maxPayloadLength 0 := rfl
  change readFields input = _
  apply Message.ext
  · rfl
  · rfl
  · rfl
  · rfl
  · rfl
  · simp only [readFields, lengthByte, dropped, zeros]
    exact copied
  · simp only [readFields, lengthByte]
    exact congrArg₂ joinBytes highPlace lowPlace

theorem read_crc_layout :
    readCrc (layout type source destination id length payload high low crcHigh crcLow)
      (payloadOffset + length.toNat + sequenceSize) = joinBytes crcHigh crcLow :=
  congrArg₂ joinBytes
    (layout_after_payload type source destination id length high low crcHigh crcLow payload same 2)
    (layout_after_payload type source destination id length high low crcHigh crcLow payload same 3)

/-- What the decoder does with a frame of consistent length. -/
theorem parse_layout :
    parse (layout type source destination id length payload high low crcHigh crcLow) =
      let decoded := assemble type source destination id length payload (joinBytes high low)
        same fits
      if isMessageValid decoded = true ∧ joinBytes crcHigh crcLow = checksum (coveredBytes decoded)
      then some decoded else none := by
  let decoded := assemble type source destination id length payload (joinBytes high low) same fits
  let input := layout type source destination id length payload high low crcHigh crcLow
  have fields : readFields input = decoded :=
    read_fields_layout type source destination id length high low crcHigh crcLow payload same fits
  have crc : readCrc input (payloadOffset + length.toNat + sequenceSize) =
      joinBytes crcHigh crcLow :=
    read_crc_layout type source destination id length high low crcHigh crcLow payload same
  have total : input.length = minLength + length.toNat :=
    layout_length type source destination id length high low crcHigh crcLow payload same
  have covered := covered_assemble type source destination id length payload (joinBytes high low)
    same fits
  rw [highByte_joinBytes, lowByte_joinBytes] at covered
  have split : input = coveredBytes decoded ++ [crcHigh, crcLow] := by
    rw [covered]
    simp [input, layout]
  have crcPlace : payloadOffset + length.toNat + sequenceSize =
      (coveredBytes decoded).length := by
    rw [covered_length decoded fits]
    simp only [payloadOffset, sequenceSize, decoded, assemble]
    omega
  have calculated : calculateCcittFalse (some input) (payloadOffset + length.toNat + sequenceSize) =
      some (checksum (coveredBytes decoded)) := by
    rw [crcPlace, split, calculate_prefix]
  have bounded : ¬(minLength + length.toNat < minLength ∨
      maxLength < minLength + length.toNat) := by
    simp only [minLength, maxLength, maxPayloadLength] at fits ⊢
    omega
  have lengthByte : input.getD lengthOffset 0 = length := rfl
  change parse input = if isMessageValid decoded = true ∧
    joinBytes crcHigh crcLow = checksum (coveredBytes decoded) then some decoded else none
  simp only [parse, lengthByte, total, if_neg bounded, if_neg (Nat.not_lt.mpr fits), fields,
    calculated, crc]
  cases isMessageValid decoded <;> simp

end Layout

/-- A string of the length its Len byte announces is a layout. -/
theorem layout_of_length (input : List Byte) (long : minLength ≤ input.length)
    (announced : input.length = minLength + (input.getD lengthOffset 0).toNat) :
    ∃ type source destination id length high low crcHigh crcLow payload,
      input = layout type source destination id length payload high low crcHigh crcLow ∧
        payload.length = length.toNat := by
  simp only [minLength] at long announced
  rcases input with _ | ⟨type, _ | ⟨source, _ | ⟨destination, _ | ⟨id, _ | ⟨length, rest⟩⟩⟩⟩⟩
  · simp at long
  · simp at long
  · simp at long
  · simp at long
  · simp at long
  · have restLength : rest.length = length.toNat + 4 := by
      simp [lengthOffset] at announced
      omega
    have tailLength : (rest.drop length.toNat).length = 4 := by
      rw [List.length_drop, restLength]
      omega
    obtain ⟨high, low, crcHigh, crcLow, tail⟩ := List.length_eq_four.mp tailLength
    refine ⟨type, source, destination, id, length, high, low, crcHigh, crcLow,
      rest.take length.toNat, ?_, ?_⟩
    · rw [layout, ← tail, List.take_append_drop]
      rfl
    · rw [List.length_take, restLength]
      omega

/-- The decoder accepts exactly the wire images of clean valid messages. -/
theorem parse_eq_some_iff (input : List Byte) (message : Message) :
    parse input = some message ↔
      isMessageValid message = true ∧ Clean message ∧ input = wireImage message := by
  constructor
  · intro parsed
    have bounds : ¬(input.length < minLength ∨ maxLength < input.length) ∧
        (input.getD lengthOffset 0).toNat ≤ maxPayloadLength ∧
          input.length = minLength + (input.getD lengthOffset 0).toNat := by
      simp only [parse] at parsed
      split_ifs at parsed with short oversize other
      all_goals simp_all
    obtain ⟨inRange, fits, announced⟩ := bounds
    obtain ⟨type, source, destination, id, length, high, low, crcHigh, crcLow, payload, shape,
      same⟩ := layout_of_length input (by omega) announced
    have lengthByte : input.getD lengthOffset 0 = length := by
      rw [shape]
      rfl
    rw [lengthByte] at fits
    have result := parse_layout type source destination id length high low crcHigh crcLow payload
      same fits
    have covered := covered_assemble type source destination id length payload
      (joinBytes high low) same fits
    rw [highByte_joinBytes, lowByte_joinBytes] at covered
    rw [← shape, parsed] at result
    simp only at result
    split_ifs at result with accepted
    · cases result
      refine ⟨accepted.1, assemble_clean _ _ _ _ _ _ _ _ _, ?_⟩
      rw [wireImage, ← accepted.2, highByte_joinBytes, lowByte_joinBytes, covered, shape]
      simp [layout]
  · intro found
    obtain ⟨valid, clean, rfl⟩ := found
    have fits := valid_payload_length message valid
    have size := message.payloadSize
    simp only [maxPayloadLength] at size
    have same : (message.payload.take message.payloadLength.toNat).length =
        message.payloadLength.toNat := by
      rw [List.length_take, size]
      omega
    have result := parse_layout message.type.toByte message.source message.destination
      message.transactionId message.payloadLength (highByte message.sequence)
      (lowByte message.sequence) (highByte (checksum (coveredBytes message)))
      (lowByte (checksum (coveredBytes message)))
      (message.payload.take message.payloadLength.toNat) same fits
    have shape : wireImage message = layout message.type.toByte message.source
        message.destination message.transactionId message.payloadLength
        (message.payload.take message.payloadLength.toNat) (highByte message.sequence)
        (lowByte message.sequence) (highByte (checksum (coveredBytes message)))
        (lowByte (checksum (coveredBytes message))) := by
      simp [wireImage, coveredBytes, layout]
    simp only [joinBytes_split,
      assemble_fields message (valid_in_byte message valid) clean fits same] at result
    rw [shape, result, if_pos ⟨valid, trivial⟩]

theorem decode_eq_parse (input : List Byte) (message : Message) :
    decode (some input) message =
      match parse input with
      | none => (false, message)
      | some decoded => (true, decoded) := rfl

theorem decode_success_iff (input : List Byte) (message : Message) :
    (decode (some input) message).1 = true ↔ ∃ decoded, parse input = some decoded := by
  rw [decode_eq_parse]
  cases parse input <;> simp

end LoraNode.NodePacket
