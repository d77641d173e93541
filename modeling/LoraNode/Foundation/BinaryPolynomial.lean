import Mathlib.Algebra.Polynomial.Div
import Mathlib.Algebra.Field.ZMod
import Mathlib.Algebra.CharP.Two

/-!
# Bit strings as polynomials over GF(2)

The first bit of a string is the highest coefficient, which is the order in
which a serial checksum consumes bits. Machine words are read the same way,
most significant bit first.
-/

namespace LoraNode.Foundation.BinaryPolynomial

open Polynomial

noncomputable section

def coefficient (bit : Bool) : (ZMod 2)[X] := if bit then 1 else 0

def ofBits : List Bool → (ZMod 2)[X]
  | [] => 0
  | bit :: bits => coefficient bit * X ^ bits.length + ofBits bits

theorem ofBits_append (left right : List Bool) :
    ofBits (left ++ right) = ofBits left * X ^ right.length + ofBits right := by
  induction left with
  | nil => simp [ofBits]
  | cons bit left induction =>
      simp only [List.cons_append, ofBits, List.length_append, induction, pow_add]
      ring

theorem ofBits_degree (bits : List Bool) : (ofBits bits).degree < bits.length := by
  induction bits with
  | nil => simp [ofBits]
  | cons bit bits induction =>
      have tail : (ofBits bits).degree < ((bits.length + 1 : ℕ) : WithBot ℕ) :=
        induction.trans (by exact_mod_cast Nat.lt_succ_self bits.length)
      have head : (coefficient bit * X ^ bits.length).degree <
          ((bits.length + 1 : ℕ) : WithBot ℕ) := by
        cases bit
        · simp [coefficient]
        · simp only [coefficient, if_true, one_mul, degree_X_pow]
          exact_mod_cast Nat.lt_succ_self bits.length
      exact (degree_add_le _ _).trans_lt (max_lt head tail)

theorem ofBits_zeros (count : Nat) : ofBits (List.replicate count false) = 0 := by
  induction count with
  | zero => rfl
  | succ count induction => simp [List.replicate_succ, ofBits, coefficient, induction]

theorem coefficient_xor (left right : Bool) :
    coefficient (left ^^ right) = coefficient left + coefficient right := by
  cases left <;> cases right <;> simp [coefficient, CharTwo.add_self_eq_zero]

theorem ofBits_xor (left right : List Bool) (sameLength : left.length = right.length) :
    ofBits (List.zipWith (· ^^ ·) left right) = ofBits left + ofBits right := by
  induction left generalizing right with
  | nil =>
      cases right with
      | nil => simp [ofBits]
      | cons bit right => simp at sameLength
  | cons bit left induction =>
      cases right with
      | nil => simp at sameLength
      | cons other right =>
          have tails : left.length = right.length := by simpa using sameLength
          simp only [List.zipWith_cons_cons, ofBits, List.length_zipWith, tails, min_self,
            coefficient_xor, induction right tails]
          ring

/-- A string with a set bit is a nonzero polynomial. -/
theorem ofBits_ne_zero (bits : List Bool) (set : true ∈ bits) : ofBits bits ≠ 0 := by
  induction bits with
  | nil => simp at set
  | cons bit bits induction =>
      cases bit with
      | false =>
          have tail : true ∈ bits := by simpa using set
          simpa [ofBits, coefficient] using induction tail
      | true =>
          intro vanishes
          have top : (ofBits (true :: bits)).coeff bits.length = 1 := by
            simp [ofBits, coefficient, coeff_eq_zero_of_degree_lt (ofBits_degree bits)]
          rw [vanishes] at top
          simp at top

/-- The parity of the weight is the value at one. -/
theorem ofBits_eval_one (bits : List Bool) :
    (ofBits bits).eval 1 = (bits.count true : ZMod 2) := by
  induction bits with
  | nil => simp [ofBits]
  | cons bit bits induction =>
      cases bit <;> simp [ofBits, coefficient, induction, add_comm]

def wordBits {width : Nat} (word : BitVec width) : List Bool :=
  List.ofFn fun index : Fin width => word.getMsbD index

@[simp] theorem wordBits_length {width : Nat} (word : BitVec width) :
    (wordBits word).length = width := by
  simp [wordBits]

def ofWord {width : Nat} (word : BitVec width) : (ZMod 2)[X] := ofBits (wordBits word)

theorem ofBits_coeff (bits : List Bool) (power : Nat) :
    (ofBits bits).coeff power =
      if power < bits.length ∧ bits.getD (bits.length - 1 - power) false then 1 else 0 := by
  induction bits with
  | nil => simp [ofBits]
  | cons bit bits induction =>
      rcases Nat.lt_trichotomy power bits.length with low | top | high
      · have head : (coefficient bit * X ^ bits.length).coeff power = 0 := by
          cases bit <;> simp [coefficient, coeff_X_pow, Nat.ne_of_lt low]
        have place : (bit :: bits).length - 1 - power = bits.length - 1 - power + 1 := by
          simp only [List.length_cons]
          omega
        rw [ofBits, coeff_add, head, zero_add, induction, place, List.getD_cons_succ]
        simp [low, Nat.lt_succ_of_lt low]
      · subst top
        have tail : (ofBits bits).coeff bits.length = 0 :=
          coeff_eq_zero_of_degree_lt (ofBits_degree bits)
        rw [ofBits, coeff_add, tail]
        cases bit <;> simp [coefficient]
      · have beyond : (ofBits (bit :: bits)).coeff power = 0 := by
          apply coeff_eq_zero_of_degree_lt
          refine (ofBits_degree _).trans_le ?_
          exact_mod_cast high
        rw [beyond, if_neg]
        simp only [List.length_cons]
        omega

theorem ofWord_degree {width : Nat} (word : BitVec width) : (ofWord word).degree < width := by
  simpa [ofWord] using ofBits_degree (wordBits word)

/-- Bit `power` of a word, counted from the least significant, is the
coefficient of that power. -/
theorem ofWord_coeff {width : Nat} (word : BitVec width) (power : Nat) :
    (ofWord word).coeff power = if word.getLsbD power then 1 else 0 := by
  rw [ofWord, ofBits_coeff, wordBits_length]
  by_cases inside : power < width
  · have place : width - 1 - power < (wordBits word).length := by
      rw [wordBits_length]
      omega
    have mirrored : width - 1 - (width - 1 - power) = power := by omega
    have bit : (wordBits word).getD (width - 1 - power) false = word.getLsbD power := by
      rw [List.getD_eq_getElem?_getD, List.getElem?_eq_getElem place, Option.getD_some]
      simp only [wordBits, List.getElem_ofFn, BitVec.getMsbD_eq_getLsbD, mirrored]
      simp
      omega
    rw [bit]
    simp [inside]
  · simp [inside, BitVec.getLsbD_of_ge word power (Nat.le_of_not_lt inside)]

theorem ofWord_zero {width : Nat} : ofWord (0 : BitVec width) = 0 := by
  ext power
  simp [ofWord_coeff]

theorem wordBits_xor {width : Nat} (left right : BitVec width) :
    wordBits (left ^^^ right) = List.zipWith (· ^^ ·) (wordBits left) (wordBits right) := by
  apply List.ext_getElem
  · simp
  · intro index _ _
    simp [wordBits]

theorem ofWord_xor {width : Nat} (left right : BitVec width) :
    ofWord (left ^^^ right) = ofWord left + ofWord right := by
  rw [ofWord, wordBits_xor, ofBits_xor _ _ (by simp)]
  rfl

theorem ofWord_injective {width : Nat} {left right : BitVec width}
    (same : ofWord left = ofWord right) : left = right := by
  have vanishes : ofWord (left ^^^ right) = 0 := by
    rw [ofWord_xor, same, CharTwo.add_self_eq_zero]
  have clear : true ∉ wordBits (left ^^^ right) := fun set =>
    ofBits_ne_zero _ set vanishes
  apply BitVec.eq_of_getMsbD_eq
  intro index bound
  have unset : (left ^^^ right).getMsbD index ≠ true := by
    intro isSet
    apply clear
    rw [← isSet, wordBits, List.mem_ofFn]
    exact ⟨⟨index, bound⟩, rfl⟩
  simpa using unset

/-- A word shifted into the top of a wider register. -/
theorem ofWord_shiftLeft {narrow width : Nat} (word : BitVec narrow) (fits : narrow ≤ width) :
    ofWord (word.setWidth width <<< (width - narrow)) = ofWord word * X ^ (width - narrow) := by
  have bits : wordBits (word.setWidth width <<< (width - narrow)) =
      wordBits word ++ List.replicate (width - narrow) false := by
    apply List.ext_getElem
    · simp [fits]
    · intro index left right
      have inWidth : index < width := by simpa using left
      by_cases inWord : index < narrow
      · rw [List.getElem_append_left (by simpa using inWord)]
        have aligned : index + (width - narrow) + narrow - width = index := by omega
        simp [wordBits, aligned]
      · rw [List.getElem_append_right (by simpa using inWord)]
        have beyond : narrow ≤ index + (width - narrow) + narrow - width := by omega
        simp [wordBits, BitVec.getMsbD_of_ge word _ beyond]
  rw [ofWord, bits, ofBits_append, ofBits_zeros]
  simp [ofWord]

end

end LoraNode.Foundation.BinaryPolynomial
