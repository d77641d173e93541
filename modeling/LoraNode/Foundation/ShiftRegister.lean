import Mathlib.RingTheory.AdjoinRoot
import Mathlib.RingTheory.Coprime.Lemmas
import LoraNode.Foundation.BinaryPolynomial

/-!
# Feedback shift registers as polynomial division

A register of `width` bits with feedback word `feedback` divides by the monic
generator `x^width + feedback(x)`. Absorbing a message therefore leaves its
remainder, and two codewords of one length differ by a multiple of the
generator. The last section lists the error patterns no multiple can have.
-/

namespace LoraNode.Foundation.ShiftRegister

open Polynomial
open LoraNode.Foundation.BinaryPolynomial

variable {width chunk : Nat} (feedback : BitVec width)

/-- One division step: the bit that leaves the register selects the feedback. -/
def shift (value : BitVec width) : BitVec width :=
  if value.msb then value <<< 1 ^^^ feedback else value <<< 1

def shifts : Nat → BitVec width → BitVec width
  | 0, value => value
  | count + 1, value => shifts count (shift feedback value)

/-- Add a chunk at the top of the register and shift it through. -/
def absorb (value : BitVec width) (word : BitVec chunk) : BitVec width :=
  shifts feedback chunk (value ^^^ word.setWidth width <<< (width - chunk))

def messageBits (words : List (BitVec chunk)) : List Bool := words.flatMap wordBits

theorem messageBits_length (words : List (BitVec chunk)) :
    (messageBits words).length = chunk * words.length := by
  induction words with
  | nil => simp [messageBits]
  | cons word words induction =>
      have tail : (words.flatMap wordBits).length = chunk * words.length := induction
      simp only [messageBits, List.flatMap_cons, List.length_append, wordBits_length, tail,
        List.length_cons, Nat.mul_add, Nat.mul_one]
      omega

theorem messageBits_append (left right : List (BitVec chunk)) :
    messageBits (left ++ right) = messageBits left ++ messageBits right := by
  simp [messageBits]

theorem messageBits_xor (left right : List (BitVec chunk))
    (sameLength : left.length = right.length) :
    messageBits (List.zipWith (· ^^^ ·) left right) =
      List.zipWith (· ^^ ·) (messageBits left) (messageBits right) := by
  induction left generalizing right with
  | nil => simp [messageBits]
  | cons word left induction =>
      cases right with
      | nil => simp at sameLength
      | cons other right =>
          have tails := induction right (by simpa using sameLength)
          simp only [messageBits] at tails
          simp only [List.zipWith_cons_cons, messageBits, List.flatMap_cons, wordBits_xor, tails]
          rw [List.zipWith_append (by simp)]

noncomputable section

def generator : (ZMod 2)[X] := X ^ width + ofWord feedback

theorem generator_monic : (generator feedback).Monic :=
  monic_X_pow_add (ofWord_degree feedback)

theorem generator_degree : (generator feedback).degree = width := by
  rw [generator, degree_add_eq_left_of_degree_lt (by simpa using ofWord_degree feedback)]
  simp

def residue (polynomial : (ZMod 2)[X]) : AdjoinRoot (generator feedback) :=
  AdjoinRoot.mk (generator feedback) polynomial

theorem residue_eq_iff (left right : (ZMod 2)[X]) :
    residue feedback left = residue feedback right ↔ generator feedback ∣ left + right := by
  rw [residue, residue, AdjoinRoot.mk_eq_mk, CharTwo.sub_eq_add]

/-- A register holds the reduced representative of its class. -/
theorem register_eq_remainder (value : BitVec width) (polynomial : (ZMod 2)[X])
    (same : residue feedback (ofWord value) = residue feedback polynomial) :
    ofWord value = polynomial %ₘ generator feedback := by
  have reduced : ofWord value %ₘ generator feedback = ofWord value := by
    rw [modByMonic_eq_self_iff (generator_monic feedback), generator_degree]
    exact ofWord_degree value
  rw [← reduced]
  apply modByMonic_eq_of_dvd_sub (generator_monic feedback)
  rwa [← AdjoinRoot.mk_eq_mk]

theorem register_ext {left right : BitVec width}
    (same : residue feedback (ofWord left) = residue feedback (ofWord right)) : left = right := by
  apply ofWord_injective
  have reduced := register_eq_remainder feedback left _ same
  have self := register_eq_remainder feedback right _ rfl
  exact reduced.trans self.symm

theorem ofWord_shift (nonempty : 0 < width) (value : BitVec width) :
    ofWord (shift feedback value) =
      X * ofWord value + if value.msb then generator feedback else 0 := by
  obtain ⟨size, rfl⟩ : ∃ size, width = size + 1 := ⟨width - 1, by omega⟩
  let tail := List.ofFn fun index : Fin size => value.getMsbD (index + 1)
  have split : wordBits value = value.msb :: tail := by
    simp [wordBits, tail, List.ofFn_succ, BitVec.msb]
  have shifted : wordBits (value <<< 1) = tail ++ [false] := by
    apply List.ext_getElem
    · simp [tail]
    · intro index left right
      by_cases last : index < size
      · rw [List.getElem_append_left (by simpa [tail] using last)]
        simp only [wordBits, tail, List.getElem_ofFn, BitVec.getMsbD_shiftLeft]
      · rw [List.getElem_append_right (by simpa [tail] using last)]
        have beyond : size + 1 ≤ index + 1 := by omega
        simp only [wordBits, List.getElem_ofFn, BitVec.getMsbD_shiftLeft,
          BitVec.getMsbD_of_ge value _ beyond, List.getElem_singleton]
  have moved : ofWord (value <<< 1) =
      X * ofWord value + coefficient value.msb * X ^ (size + 1) := by
    rw [ofWord, shifted, ofBits_append, ofWord, split]
    have cancel (high : (ZMod 2)[X]) : high + high = 0 := CharTwo.add_self_eq_zero high
    simp only [ofBits, List.length_cons, List.length_nil, tail, List.length_ofFn]
    simp only [coefficient, Bool.false_eq_true, if_false]
    linear_combination -cancel ((if value.msb then 1 else 0) * X ^ (size + 1))
  cases top : value.msb with
  | false => simp [shift, top, moved, coefficient]
  | true =>
      simp only [shift, top, if_true, ofWord_xor, moved, coefficient, generator]
      ring

theorem residue_shifts (nonempty : 0 < width) (count : Nat) (value : BitVec width) :
    residue feedback (ofWord (shifts feedback count value)) =
      residue feedback (X ^ count * ofWord value) := by
  induction count generalizing value with
  | zero => simp [shifts]
  | succ count induction =>
      have step : residue feedback (ofWord (shift feedback value)) =
          residue feedback (X * ofWord value) := by
        rw [ofWord_shift feedback nonempty]
        cases value.msb <;> simp [residue]
      simp only [residue, map_mul] at induction step ⊢
      rw [shifts, induction, step, pow_succ, map_mul, mul_assoc]

theorem residue_absorb (nonempty : 0 < width) (fits : chunk ≤ width) (value : BitVec width)
    (word : BitVec chunk) :
    residue feedback (ofWord (absorb feedback value word)) =
      residue feedback (X ^ chunk * ofWord value + X ^ width * ofWord word) := by
  rw [absorb, residue_shifts feedback nonempty, ofWord_xor, ofWord_shiftLeft word fits]
  congr 1
  have powers : (X : (ZMod 2)[X]) ^ width = X ^ chunk * X ^ (width - chunk) := by
    rw [← pow_add]
    congr 1
    omega
  rw [powers]
  ring

/-- After any message the register is congruent to the initial value and the
message, both moved up by what has been consumed. -/
theorem residue_message (nonempty : 0 < width) (fits : chunk ≤ width) (value : BitVec width)
    (words : List (BitVec chunk)) :
    residue feedback (ofWord (words.foldl (absorb feedback) value)) =
      residue feedback (ofWord value * X ^ (chunk * words.length) +
        ofBits (messageBits words) * X ^ width) := by
  induction words generalizing value with
  | nil => simp [messageBits, ofBits]
  | cons word words induction =>
      have first := residue_absorb feedback nonempty fits value word
      have tailLength := messageBits_length words
      simp only [residue, map_add, map_mul] at first induction ⊢
      simp only [messageBits] at tailLength
      rw [List.foldl_cons, induction, first]
      simp only [messageBits, List.flatMap_cons, ofBits_append, tailLength, List.length_cons,
        Nat.mul_add, Nat.mul_one, pow_add, map_add, map_mul, ofWord]
      ring

theorem message_remainder (nonempty : 0 < width) (fits : chunk ≤ width) (value : BitVec width)
    (words : List (BitVec chunk)) :
    ofWord (words.foldl (absorb feedback) value) =
      (ofWord value * X ^ (chunk * words.length) + ofBits (messageBits words) * X ^ width)
        %ₘ generator feedback :=
  register_eq_remainder feedback _ _ (residue_message feedback nonempty fits value words)

/-- A message followed by words that spell its register is congruent to the
initial value alone, so codewords of one length are congruent to each other. -/
theorem residue_codeword (nonempty : 0 < width) (fits : chunk ≤ width) (value : BitVec width)
    (body check : List (BitVec chunk))
    (spelled : messageBits check = wordBits (body.foldl (absorb feedback) value)) :
    residue feedback (ofBits (messageBits (body ++ check))) =
      residue feedback (ofWord value * X ^ (chunk * body.length)) := by
  have remainder := residue_message feedback nonempty fits value body
  rw [messageBits_append, ofBits_append, spelled, wordBits_length]
  change residue feedback
    (_ + ofWord (body.foldl (absorb feedback) value)) = _
  rw [residue_eq_iff] at remainder ⊢
  have rearranged : ofBits (messageBits body) * X ^ width +
      ofWord (body.foldl (absorb feedback) value) + ofWord value * X ^ (chunk * body.length) =
      ofWord (body.foldl (absorb feedback) value) +
        (ofWord value * X ^ (chunk * body.length) + ofBits (messageBits body) * X ^ width) := by
    ring
  rwa [rearranged]

/-- The register after a codeword is empty. -/
theorem codeword_register (nonempty : 0 < width) (fits : chunk ≤ width) (value : BitVec width)
    (body check : List (BitVec chunk)) (filled : chunk * check.length = width)
    (spelled : messageBits check = wordBits (body.foldl (absorb feedback) value)) :
    (body ++ check).foldl (absorb feedback) value = 0 := by
  have codeword := residue_codeword feedback nonempty fits value body check spelled
  have cancel (polynomial : (ZMod 2)[X]) : polynomial + polynomial = 0 :=
    CharTwo.add_self_eq_zero polynomial
  apply register_ext feedback
  rw [residue_message feedback nonempty fits, ofWord_zero, List.length_append, Nat.mul_add, filled,
    pow_add, ← mul_assoc]
  simp only [residue, map_add, map_mul, map_zero] at codeword ⊢
  rw [codeword, ← map_mul, ← map_mul, ← map_add, cancel, map_zero]

/-- For messages of one length the register is affine over exclusive or. -/
theorem message_affine (nonempty : 0 < width) (fits : chunk ≤ width) (value : BitVec width)
    (first second third : List (BitVec chunk)) (sameSecond : first.length = second.length)
    (sameThird : first.length = third.length) :
    (List.zipWith (· ^^^ ·) first (List.zipWith (· ^^^ ·) second third)).foldl
        (absorb feedback) value =
      first.foldl (absorb feedback) value ^^^ (second.foldl (absorb feedback) value ^^^
        third.foldl (absorb feedback) value) := by
  have inner : (List.zipWith (· ^^^ ·) second third).length = second.length := by
    rw [List.length_zipWith]
    omega
  have outer : (List.zipWith (· ^^^ ·) first (List.zipWith (· ^^^ ·) second third)).length =
      first.length := by
    rw [List.length_zipWith]
    omega
  have bits : ofBits (messageBits (List.zipWith (· ^^^ ·) first
      (List.zipWith (· ^^^ ·) second third))) =
        ofBits (messageBits first) +
          (ofBits (messageBits second) + ofBits (messageBits third)) := by
    rw [messageBits_xor _ _ (by omega), messageBits_xor _ _ (by omega), ofBits_xor, ofBits_xor]
    · rw [messageBits_length, messageBits_length, ← sameSecond, sameThird]
    · rw [List.length_zipWith, messageBits_length, messageBits_length, messageBits_length,
        ← sameSecond, ← sameThird, min_self]
  have cancel (polynomial : (ZMod 2)[X]) : polynomial + polynomial = 0 :=
    CharTwo.add_self_eq_zero polynomial
  apply register_ext feedback
  rw [ofWord_xor, ofWord_xor, residue_message feedback nonempty fits, outer, bits]
  simp only [residue, map_add]
  have firstClass := residue_message feedback nonempty fits value first
  have secondClass := residue_message feedback nonempty fits value second
  have thirdClass := residue_message feedback nonempty fits value third
  simp only [residue] at firstClass secondClass thirdClass
  rw [firstClass, secondClass, thirdClass, ← sameSecond, ← sameThird, ← map_add, ← map_add]
  refine congrArg (AdjoinRoot.mk (generator feedback)) ?_
  linear_combination -cancel (ofWord value * X ^ (chunk * first.length))

theorem codewords_differ (nonempty : 0 < width) (fits : chunk ≤ width) (value : BitVec width)
    (body check body' check' : List (BitVec chunk))
    (spelled : messageBits check = wordBits (body.foldl (absorb feedback) value))
    (spelled' : messageBits check' = wordBits (body'.foldl (absorb feedback) value))
    (sameLength : body.length = body'.length) :
    generator feedback ∣
      ofBits (messageBits (body ++ check)) + ofBits (messageBits (body' ++ check')) := by
  rw [← residue_eq_iff, residue_codeword feedback nonempty fits value body check spelled,
    residue_codeword feedback nonempty fits value body' check' spelled', sameLength]

end

end LoraNode.Foundation.ShiftRegister
