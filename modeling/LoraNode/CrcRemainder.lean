import LoraNode.Crc16

/-!
# The CRC loop as polynomial division

The checksum is read back coefficient by coefficient from the remainder of the
message. What follows from the division alone is that the checksum is affine in
the message and that a message with its own checksum appended leaves zero.
-/

namespace LoraNode.CrcRemainder

open Polynomial
open LoraNode.Foundation.Bytes LoraNode.Foundation.BinaryPolynomial
open LoraNode.Foundation.ShiftRegister LoraNode.Crc16

def xorBytes (left right : List Byte) : List Byte := List.zipWith (· ^^^ ·) left right

noncomputable section

/-- The first byte's most significant bit is the highest power. -/
def messagePolynomial : List Byte → (ZMod 2)[X]
  | [] => 0
  | byte :: rest => ofWord byte * X ^ (8 * rest.length) + messagePolynomial rest

def onesPolynomial : (ZMod 2)[X] := ∑ power ∈ Finset.range 16, X ^ power

def crcPolynomial (bytes : List Byte) : (ZMod 2)[X] :=
  (onesPolynomial * X ^ (8 * bytes.length) + messagePolynomial bytes * X ^ 16)
    %ₘ (X ^ 16 + X ^ 12 + X ^ 5 + 1)

theorem message_polynomial_eq (bytes : List Byte) :
    messagePolynomial bytes = ofBits (messageBits bytes) := by
  induction bytes with
  | nil => rfl
  | cons byte rest induction =>
      have split : messageBits (byte :: rest) = wordBits byte ++ messageBits rest := rfl
      rw [messagePolynomial, induction, split, ofBits_append, messageBits_length]
      rfl

theorem ones_polynomial_eq : onesPolynomial = ofBits (List.replicate 16 true) := by
  simp only [onesPolynomial, Finset.sum_range_succ, Finset.sum_range_zero, List.replicate, ofBits,
    coefficient, if_true, List.length_cons, List.length_nil]
  ring

theorem crc_polynomial_spec (bytes : List Byte) (crc : BitVec 16) :
    calculateCcittFalse (some bytes) bytes.length = some crc ↔
      ofWord crc = crcPolynomial bytes := by
  rw [calculate_is_ccitt_false, IsCcittFalse, crcPolynomial, message_polynomial_eq,
    ones_polynomial_eq, ccittGenerator]

/-- One round of the inner loop multiplies by `x`; the bit that leaves the
register is the one the generator takes away. -/
theorem shift_bit_polynomial (value : BitVec 16) :
    ofWord (shiftBit value) =
      X * ofWord value + if value.msb then X ^ 16 + X ^ 12 + X ^ 5 + 1 else 0 := by
  rw [shift_bit_eq, ofWord_shift polynomial (by omega), generator_eq, ccittGenerator]

/-- The checksum's bits are the remainder's coefficients; nothing but reduced
top bits is cut off on the way; it is affine; appended, it leaves zero. -/
theorem crc_is_remainder (bytes : List Byte) :
    ∃ crc, calculateCcittFalse (some bytes) bytes.length = some crc ∧
      (∀ power, (crcPolynomial bytes).coeff power = if crc.getLsbD power then 1 else 0) ∧
      (∀ value, ofWord (shiftBit value) =
        X * ofWord value + if value.msb then X ^ 16 + X ^ 12 + X ^ 5 + 1 else 0) ∧
      (∀ byte : Byte, ofWord (byte.setWidth 16 <<< 8) = ofWord byte * X ^ 8) ∧
      (∀ second third crc' crc'', second.length = bytes.length → third.length = bytes.length →
        calculateCcittFalse (some second) bytes.length = some crc' →
          calculateCcittFalse (some third) bytes.length = some crc'' →
            calculateCcittFalse (some (xorBytes bytes (xorBytes second third))) bytes.length =
              some (crc ^^^ (crc' ^^^ crc''))) ∧
      calculateCcittFalse (some (bytes ++ [highByte crc, lowByte crc])) (bytes.length + 2) =
        some 0 := by
  let crc := bytes.foldl (absorb polynomial) initialValue
  have computed : calculateCcittFalse (some bytes) bytes.length = some crc := by
    rw [calculate_eq_absorb, List.take_length]
  refine ⟨crc, computed, ?_, shift_bit_polynomial, ?_, ?_, ?_⟩
  · intro power
    rw [← (crc_polynomial_spec bytes crc).mp computed, ofWord_coeff]
  · intro byte
    exact ofWord_shiftLeft byte (by omega)
  · intro second third crc' crc'' sameSecond sameThird computedSecond computedThird
    rw [calculate_eq_absorb, ← sameSecond, List.take_length, Option.some.injEq] at computedSecond
    rw [calculate_eq_absorb, ← sameThird, List.take_length, Option.some.injEq] at computedThird
    have whole : (xorBytes bytes (xorBytes second third)).length = bytes.length := by
      simp [xorBytes, sameSecond, sameThird]
    rw [calculate_eq_absorb, ← whole, List.take_length, ← computedSecond, ← computedThird]
    exact congrArg some (message_affine polynomial (by omega) (by omega) initialValue bytes second
      third sameSecond.symm sameThird.symm)
  · have size : (bytes ++ [highByte crc, lowByte crc]).length = bytes.length + 2 := by simp
    rw [calculate_eq_absorb, ← size, List.take_length, codeword_register polynomial (by omega)
      (by omega) initialValue bytes [highByte crc, lowByte crc] rfl (word_spelled crc)]

end

end LoraNode.CrcRemainder
