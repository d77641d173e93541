import LoraNode.Foundation.Bytes
import LoraNode.Foundation.ErrorPattern

/-!
# CRC-16/CCITT-FALSE (`crc16.c`)

The source loop is a shift register with feedback 0x1021, so its result is the
remainder that names the checksum. The polynomial specification at the end
mentions no loop and is what the packet grammar is stated with.
-/

namespace LoraNode.Crc16

open Polynomial
open LoraNode.Foundation.Bytes LoraNode.Foundation.BinaryPolynomial
open LoraNode.Foundation.ShiftRegister LoraNode.Foundation.ErrorPattern

def initialValue : BitVec 16 := 0xFFFF

def polynomial : BitVec 16 := 0x1021

def topBit : BitVec 16 := 0x8000

/-- The body of the inner loop. -/
def shiftBit (value : BitVec 16) : BitVec 16 :=
  if value &&& topBit ≠ 0 then value <<< 1 ^^^ polynomial else value <<< 1

/-- The inner loop, `count` more rounds. -/
def shiftBits : Nat → BitVec 16 → BitVec 16
  | 0, value => value
  | count + 1, value => shiftBits count (shiftBit value)

/-- The body of the outer loop. -/
def updateByte (value : BitVec 16) (byte : Byte) : BitVec 16 :=
  shiftBits 8 (value ^^^ byte.setWidth 16 <<< 8)

/-- `CRC16_CalculateCcittFalse`. A NULL `data` is `none`; the result pointer is
the result here, and a failure writes nothing. -/
def calculateCcittFalse (data : Option (List Byte)) (length : Nat) : Option (BitVec 16) :=
  match data with
  | none => if length ≠ 0 then none else some initialValue
  | some bytes => some ((bytes.take length).foldl updateByte initialValue)

theorem top_bit_test (value : BitVec 16) : value &&& topBit ≠ 0 ↔ value.msb = true := by
  constructor
  · intro set
    by_contra clear
    apply set
    ext index bound
    by_cases top : index = 15
    · subst top
      have unset : value[15] = false := by simpa [BitVec.msb_eq_getLsbD_last] using clear
      simp [unset]
    · have mask : topBit[index] = false := by
        have places : ∀ place : Fin 16, place.val ≠ 15 → topBit.getLsbD place.val = false := by
          decide
        exact places ⟨index, bound⟩ top
      simp [mask]
  · intro set clear
    have top := congrArg (fun word : BitVec 16 => word[15]) clear
    have isSet : value[15] = true := by simpa [BitVec.msb_eq_getLsbD_last] using set
    simp [isSet, topBit] at top

theorem shift_bit_eq (value : BitVec 16) : shiftBit value = shift polynomial value := by
  unfold shiftBit shift
  by_cases top : value.msb = true
  · rw [if_pos ((top_bit_test value).mpr top), if_pos top]
  · rw [if_neg (fun set => top ((top_bit_test value).mp set)), if_neg top]

theorem shift_bits_eq (count : Nat) (value : BitVec 16) :
    shiftBits count value = shifts polynomial count value := by
  induction count generalizing value with
  | zero => rfl
  | succ count induction => rw [shiftBits, shifts, shift_bit_eq, induction]

theorem update_byte_eq (value : BitVec 16) (byte : Byte) :
    updateByte value byte = absorb polynomial value byte := by
  rw [updateByte, shift_bits_eq]
  rfl

theorem calculate_eq_absorb (bytes : List Byte) (length : Nat) :
    calculateCcittFalse (some bytes) length =
      some ((bytes.take length).foldl (absorb polynomial) initialValue) := by
  have bodies : updateByte = absorb polynomial := by
    funext value byte
    exact update_byte_eq value byte
  rw [calculateCcittFalse, bodies]

/-- A checksum in big-endian order spells its register. -/
theorem word_spelled (word : BitVec 16) :
    messageBits [highByte word, lowByte word] = wordBits word := by
  simp [messageBits, wordBits, highByte, lowByte, BitVec.getMsbD]

noncomputable section

def ccittGenerator : (ZMod 2)[X] := X ^ 16 + X ^ 12 + X ^ 5 + 1

/-- The checksum of `body` is the remainder of the message, prefixed by sixteen
ones, on division by the generator. -/
def IsCcittFalse (body : List Byte) (crc : BitVec 16) : Prop :=
  ofWord crc =
    (ofBits (List.replicate 16 true) * X ^ (8 * body.length) + ofBits (messageBits body) * X ^ 16)
      %ₘ ccittGenerator

theorem generator_eq : generator polynomial = ccittGenerator := by
  have feedback : wordBits polynomial =
      [false, false, false, true, false, false, false, false,
        false, false, true, false, false, false, false, true] := by decide
  rw [generator, ofWord, feedback]
  simp [ccittGenerator, ofBits, coefficient]
  ring

theorem generator_constant : (generator polynomial).coeff 0 = 1 := by
  rw [generator_eq]
  simp [ccittGenerator]

theorem generator_root : (generator polynomial).eval 1 = 0 := by
  rw [generator_eq]
  simp [ccittGenerator]
  decide

theorem calculate_is_ccitt_false (bytes : List Byte) (crc : BitVec 16) :
    calculateCcittFalse (some bytes) bytes.length = some crc ↔ IsCcittFalse bytes crc := by
  have remainder := message_remainder polynomial (by omega) (by omega) initialValue bytes
  have ones : wordBits initialValue = List.replicate 16 true := by decide
  rw [calculate_eq_absorb, List.take_length, Option.some.injEq, IsCcittFalse, ← ones,
    ← generator_eq]
  constructor
  · intro same
    subst same
    exact remainder
  · intro specified
    exact ofWord_injective (remainder.trans specified.symm)

end

end LoraNode.Crc16
