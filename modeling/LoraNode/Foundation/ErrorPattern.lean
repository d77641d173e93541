import LoraNode.Foundation.ShiftRegister

/-!
# Error patterns a cyclic check always detects

A multiple of the generator has even weight when the generator vanishes at one,
is never confined to a window as long as the register, and has weight two only
when its set bits are a multiple of the order of `x` apart. Each rule below is
one of these facts, read off the bit string of the error.
-/

namespace LoraNode.Foundation.ErrorPattern

open Polynomial
open LoraNode.Foundation.BinaryPolynomial LoraNode.Foundation.ShiftRegister

def Burst (width : Nat) (bits : List Bool) : Prop :=
  ∃ start, ∀ index, bits[index]? = some true → start ≤ index ∧ index < start + width

/-- Iterating the register from `value` does not meet the word one. -/
def avoidsOne {width : Nat} (feedback : BitVec width) : Nat → BitVec width → Bool
  | 0, _ => true
  | count + 1, value => value != 1 && avoidsOne feedback count (shift feedback value)

theorem avoids_one_shifts {width : Nat} (feedback : BitVec width) (count : Nat)
    (value : BitVec width) (avoids : avoidsOne feedback count value = true)
    (distance : Nat) (below : distance < count) : shifts feedback distance value ≠ 1 := by
  induction count generalizing value distance with
  | zero => omega
  | succ count induction =>
      simp only [avoidsOne, Bool.and_eq_true, bne_iff_ne] at avoids
      cases distance with
      | zero => exact avoids.1
      | succ distance => exact induction _ avoids.2 distance (by omega)

/-- A string without set bits is a block of zeros. -/
theorem clear_eq_zeros (bits : List Bool) (clear : true ∉ bits) :
    bits = List.replicate bits.length false := by
  rw [List.eq_replicate_iff]
  refine ⟨rfl, fun bit member => ?_⟩
  cases bit with
  | false => rfl
  | true => exact absurd member clear

/-- The first set bit of a string. -/
theorem split_at_set (bits : List Bool) (set : true ∈ bits) :
    ∃ before after, bits = List.replicate before false ++ true :: after := by
  induction bits with
  | nil => simp at set
  | cons bit bits induction =>
      cases bit with
      | true => exact ⟨0, bits, rfl⟩
      | false =>
          obtain ⟨before, after, split⟩ := induction (by simpa using set)
          exact ⟨before + 1, after, by rw [split, List.replicate_succ]; rfl⟩

/-- Leading zeros do not contribute. -/
theorem ofBits_leading (before : Nat) (bits : List Bool) :
    ofBits (List.replicate before false ++ bits) = ofBits bits := by
  rw [ofBits_append, ofBits_zeros, zero_mul, zero_add]

noncomputable section

variable {width : Nat} (feedback : BitVec width)

theorem generator_coprime_x (constant : (generator feedback).coeff 0 = 1) :
    IsCoprime (generator feedback) X := by
  refine ⟨1, divX (generator feedback), ?_⟩
  have split := divX_mul_X_add (generator feedback)
  rw [constant, C_1] at split
  have twice : divX (generator feedback) * X + divX (generator feedback) * X = 0 :=
    CharTwo.add_self_eq_zero _
  linear_combination twice - split

theorem generator_dvd_shifted (constant : (generator feedback).coeff 0 = 1)
    (polynomial : (ZMod 2)[X]) (places : Nat) :
    generator feedback ∣ polynomial * X ^ places ↔ generator feedback ∣ polynomial :=
  ⟨fun divides => ((generator_coprime_x feedback constant).pow_right).dvd_of_dvd_mul_right divides,
    fun divides => divides.mul_right _⟩

theorem odd_not_multiple (root : (generator feedback).eval 1 = 0) (bits : List Bool)
    (odd : Odd (bits.count true)) : ¬generator feedback ∣ ofBits bits := by
  intro found
  obtain ⟨quotient, product⟩ := found
  have value := ofBits_eval_one bits
  rw [product, eval_mul, root, zero_mul] at value
  have even : (2 : ℕ) ∣ bits.count true := (ZMod.natCast_eq_zero_iff _ _).mp value.symm
  exact (Nat.not_even_iff_odd.mpr odd) (even_iff_two_dvd.mpr even)

theorem burst_not_multiple (constant : (generator feedback).coeff 0 = 1) (bits : List Bool)
    (set : true ∈ bits) (burst : Burst width bits) : ¬generator feedback ∣ ofBits bits := by
  obtain ⟨start, window⟩ := burst
  let middle := (bits.drop start).take width
  let after := (bits.drop start).drop width
  have split : bits = bits.take start ++ (middle ++ after) := by
    simp [middle, after]
  have beforeClear : true ∉ bits.take start := by
    intro member
    obtain ⟨index, bound, isSet⟩ := List.mem_take_iff_getElem.mp member
    have inside := window index (by rw [List.getElem?_eq_getElem (by omega), isSet])
    omega
  have afterClear : true ∉ after := by
    intro member
    obtain ⟨index, isSet⟩ := List.mem_iff_getElem?.mp member
    have inside := window (start + (width + index)) (by
      simpa [after, List.getElem?_drop, Nat.add_assoc] using isSet)
    omega
  have middleSet : true ∈ middle := by
    rw [split] at set
    simpa [beforeClear, afterClear] using set
  have shifted : ofBits bits = ofBits middle * X ^ after.length := by
    rw [split, clear_eq_zeros _ beforeClear, ofBits_leading, ofBits_append,
      clear_eq_zeros after afterClear, ofBits_zeros, List.length_replicate, add_zero]
  rw [shifted, generator_dvd_shifted feedback constant]
  apply (generator_monic feedback).not_dvd_of_degree_lt (ofBits_ne_zero middle middleSet)
  rw [generator_degree]
  refine (ofBits_degree middle).trans_le ?_
  exact_mod_cast (List.length_take_le width (bits.drop start))

/-- The register turns the order of `x` into a finite computation. -/
theorem power_not_one (nonempty : 1 < width) (bound : Nat)
    (avoids : avoidsOne feedback bound (shift feedback 1) = true)
    (distance : Nat) (positive : 0 < distance) (below : distance ≤ bound) :
    ¬generator feedback ∣ X ^ distance + 1 := by
  have one : ofWord (1 : BitVec width) = 1 := by
    have bits : wordBits (1 : BitVec width) = List.replicate (width - 1) false ++ [true] := by
      apply List.ext_getElem
      · simp
        omega
      · intro index left right
        have inWord : index < width := by simpa using left
        by_cases last : index < width - 1
        · rw [List.getElem_append_left (by simpa using last)]
          have high : ¬width - 1 - index = 0 := by omega
          simp [wordBits, BitVec.getMsbD, BitVec.getLsbD_one, high]
        · rw [List.getElem_append_right (by simpa using last)]
          have low : width - 1 - index = 0 := by omega
          have inside : 0 < width := by omega
          simp [wordBits, BitVec.getMsbD, BitVec.getLsbD_one, low, inside]
    rw [ofWord, bits, ofBits_leading]
    simp [ofBits, coefficient]
  intro divides
  obtain ⟨previous, rfl⟩ : ∃ previous, distance = previous + 1 := ⟨distance - 1, by omega⟩
  apply avoids_one_shifts feedback bound _ avoids previous (by omega)
  apply register_ext feedback
  have moved := residue_shifts feedback (by omega) (previous + 1) 1
  rw [shifts] at moved
  rw [moved, residue_eq_iff, one, mul_one]
  exact divides

theorem double_not_multiple (constant : (generator feedback).coeff 0 = 1) (nonempty : 1 < width)
    (bound : Nat) (avoids : avoidsOne feedback bound (shift feedback 1) = true)
    (bits : List Bool) (short : bits.length ≤ bound) (double : bits.count true = 2) :
    ¬generator feedback ∣ ofBits bits := by
  obtain ⟨before, rest, split⟩ := split_at_set bits (List.count_pos_iff.mp (by omega))
  have single : rest.count true = 1 := by
    simpa [split, List.count_replicate] using double
  obtain ⟨between, after, restSplit⟩ := split_at_set rest (List.count_pos_iff.mp (by omega))
  have afterClear : true ∉ after := by
    rw [← List.count_eq_zero]
    simpa [restSplit, List.count_replicate] using single
  have shape : ofBits bits = (X ^ (between + 1) + 1) * X ^ after.length := by
    have powers : (X : (ZMod 2)[X]) ^ (between + (after.length + 1)) =
        X ^ (between + 1) * X ^ after.length := by
      rw [← pow_add]
      congr 1
      omega
    rw [split, ofBits_leading, restSplit, clear_eq_zeros after afterClear]
    simp only [ofBits, coefficient, if_true, ofBits_leading, ofBits_zeros, List.length_append,
      List.length_replicate, List.length_cons, one_mul, add_zero]
    rw [powers]
    ring
  rw [shape, generator_dvd_shifted feedback constant]
  apply power_not_one feedback nonempty bound avoids _ (by omega)
  have lengths := congrArg List.length split
  have restLengths := congrArg List.length restSplit
  simp only [List.length_append, List.length_replicate, List.length_cons] at lengths restLengths
  omega

end

end LoraNode.Foundation.ErrorPattern
