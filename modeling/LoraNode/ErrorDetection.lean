import LoraNode.PacketLayout

/-!
# Corrupted and truncated frames are rejected

Two accepted frames of one length differ by a multiple of the generator, so an
error the checksum misses is such a multiple. Len needs no separate treatment:
a damaged Len byte either breaks the length rule or leaves the CRC where it was.
-/

namespace LoraNode.ErrorDetection

open LoraNode.Foundation.Bytes LoraNode.Foundation.BinaryPolynomial
open LoraNode.Foundation.ShiftRegister LoraNode.Foundation.ErrorPattern
open LoraNode.Crc16 LoraNode.NodePacket

def weight (mask : List Byte) : Nat := (messageBits mask).count true

def corrupt (frame mask : List Byte) : List Byte := List.zipWith (· ^^^ ·) frame mask

/-- Odd weight, weight two, or every set bit within sixteen consecutive ones,
bits numbered from the most significant of the first byte. -/
def Detectable (mask : List Byte) : Prop :=
  Odd (weight mask) ∨ weight mask = 2 ∨ Burst 16 (messageBits mask)

theorem nonzero_has_bit (mask : List Byte) (nonzero : ∃ byte ∈ mask, byte ≠ 0) :
    true ∈ messageBits mask := by
  obtain ⟨byte, member, notZero⟩ := nonzero
  by_contra clear
  apply notZero
  apply BitVec.eq_of_getMsbD_eq
  intro index bound
  cases bit : byte.getMsbD index with
  | false => simp
  | true =>
      refine absurd ?_ clear
      rw [messageBits, List.mem_flatMap]
      refine ⟨byte, member, ?_⟩
      rw [← bit, wordBits, List.mem_ofFn]
      exact ⟨⟨index, bound⟩, rfl⟩

theorem accepted_length (frame : List Byte) (decoded : Message)
    (parsed : parse frame = some decoded) :
    9 ≤ frame.length ∧ frame.length ≤ 64 ∧ frame.length = 9 + (frame.getD 4 0).toNat := by
  simp only [parse] at parsed
  split_ifs at parsed with short oversize other
  all_goals simp_all [minLength, maxLength, lengthOffset]

/-- Two accepted frames of one length differ by a multiple of the generator. -/
theorem accepted_differ (left right : List Byte) (leftDecoded rightDecoded : Message)
    (leftParsed : parse left = some leftDecoded) (rightParsed : parse right = some rightDecoded)
    (sameLength : left.length = right.length) :
    generator polynomial ∣ ofBits (messageBits left) + ofBits (messageBits right) := by
  obtain ⟨leftValid, -, leftImage⟩ := (parse_eq_some_iff left leftDecoded).mp leftParsed
  obtain ⟨rightValid, -, rightImage⟩ := (parse_eq_some_iff right rightDecoded).mp rightParsed
  have bodies : updateByte = absorb polynomial := by
    funext value byte
    exact update_byte_eq value byte
  have leftSize := covered_length leftDecoded (valid_payload_length leftDecoded leftValid)
  have rightSize := covered_length rightDecoded (valid_payload_length rightDecoded rightValid)
  have coveredLength : (coveredBytes leftDecoded).length = (coveredBytes rightDecoded).length := by
    rw [leftImage, rightImage, wireImage, wireImage] at sameLength
    simpa using sameLength
  have differ := codewords_differ polynomial (by omega) (by omega) initialValue
    (coveredBytes leftDecoded) [highByte (checksum (coveredBytes leftDecoded)),
      lowByte (checksum (coveredBytes leftDecoded))]
    (coveredBytes rightDecoded) [highByte (checksum (coveredBytes rightDecoded)),
      lowByte (checksum (coveredBytes rightDecoded))]
    (by rw [word_spelled, checksum, bodies]) (by rw [word_spelled, checksum, bodies])
    coveredLength
  rw [leftImage, rightImage, wireImage, wireImage]
  -- otherwise the polynomials are unfolded before their bytes are compared
  with_reducible exact differ

theorem detectable_not_multiple (mask : List Byte) (nonzero : ∃ byte ∈ mask, byte ≠ 0)
    (short : mask.length ≤ 64) (detectable : Detectable mask) :
    ¬generator polynomial ∣ ofBits (messageBits mask) := by
  have bits := messageBits_length mask
  rcases detectable with odd | double | burst
  · exact odd_not_multiple polynomial generator_root _ odd
  · have avoids : avoidsOne polynomial 512 (shift polynomial 1) = true := by decide +kernel
    exact double_not_multiple polynomial generator_constant (by omega) 512 avoids _ (by omega)
      double
  · exact burst_not_multiple polynomial generator_constant _ (nonzero_has_bit mask nonzero) burst

/-- Len fixes the length, so accepted frames are prefix free. -/
theorem accepted_prefix_eq (left right : List Byte) (leftDecoded rightDecoded : Message)
    (leftParsed : parse left = some leftDecoded) (rightParsed : parse right = some rightDecoded)
    (starts : left <+: right) : left = right := by
  obtain ⟨leftLong, -, leftLength⟩ := accepted_length left leftDecoded leftParsed
  obtain ⟨-, -, rightLength⟩ := accepted_length right rightDecoded rightParsed
  obtain ⟨rest, rfl⟩ := starts
  rw [List.getD_append _ _ _ _ (by omega), ← leftLength, List.length_append] at rightLength
  have empty : rest = [] := List.length_eq_zero_iff.mp (by omega)
  rw [empty, List.append_nil]

theorem rejected_of_parse_none (input : List Byte) (previous : Message)
    (rejects : ∀ decoded, parse input ≠ some decoded) :
    (decode (some input) previous).1 = false := by
  rw [decode_eq_parse]
  cases parsed : parse input with
  | none => rfl
  | some decoded => exact absurd parsed (rejects decoded)

/-- An accepted frame hit by a detectable error, cut short or extended is
rejected. -/
theorem corrupted_frame_rejected (frame : List Byte) (previous : Message)
    (accepted : (decode (some frame) previous).1 = true) :
    (∀ mask : List Byte, mask.length = frame.length → (∃ byte ∈ mask, byte ≠ 0) →
        Detectable mask → (decode (some (corrupt frame mask)) previous).1 = false) ∧
      (∀ cut : List Byte, cut <+: frame → cut ≠ frame →
        (decode (some cut) previous).1 = false) ∧
      (∀ longer : List Byte, frame <+: longer → longer ≠ frame →
        (decode (some longer) previous).1 = false) := by
  obtain ⟨decoded, parsed⟩ := (decode_success_iff frame previous).mp accepted
  refine ⟨?_, ?_, ?_⟩
  · intro mask sameLength nonzero detectable
    apply rejected_of_parse_none
    intro other otherParsed
    have corruptLength : frame.length = (corrupt frame mask).length := by
      simp [corrupt, sameLength]
    have multiple := accepted_differ frame (corrupt frame mask) decoded other parsed otherParsed
      corruptLength
    have bitLengths : (messageBits frame).length = (messageBits mask).length := by
      rw [messageBits_length, messageBits_length, sameLength]
    have cancelled : ofBits (messageBits frame) + ofBits (messageBits (corrupt frame mask)) =
        ofBits (messageBits mask) := by
      rw [corrupt, messageBits_xor _ _ sameLength.symm, ofBits_xor _ _ bitLengths, ← add_assoc,
        CharTwo.add_self_eq_zero, zero_add]
    rw [cancelled] at multiple
    have short := (accepted_length frame decoded parsed).2.1
    exact detectable_not_multiple mask nonzero (by omega) detectable multiple
  · intro cut starts different
    apply rejected_of_parse_none
    intro other otherParsed
    exact different (accepted_prefix_eq cut frame other decoded otherParsed parsed starts)
  · intro longer starts different
    apply rejected_of_parse_none
    intro other otherParsed
    exact different (accepted_prefix_eq frame longer decoded other parsed otherParsed starts).symm

/-- The ACK to node 2 with ID and Seq zero, hit in its Len and its last CRC byte. -/
theorem corrupted_ack_rejected :
    (decode (some (corrupt [3, 0, 2, 0, 0, 0, 0, 109, 207] [0, 0, 0, 0, 0x80, 0, 0, 0, 0x01]))
      Message.zero).1 = false :=
  (corrupted_frame_rejected [3, 0, 2, 0, 0, 0, 0, 109, 207] Message.zero (by decide +kernel)).1
    [0, 0, 0, 0, 0x80, 0, 0, 0, 0x01] rfl ⟨0x80, by simp, by decide⟩ (Or.inr (Or.inl (by decide)))

end LoraNode.ErrorDetection
