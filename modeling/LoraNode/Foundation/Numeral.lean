import Mathlib.Data.Nat.Digits.Lemmas

/-!
# The shortest numeral of a number

Digits are written from the highest, and zero has a digit of its own. A number has
many numerals, since zeros may lead, and one that is shorter than all others. It is
built by dividing until the quotient is zero, as a printer builds it.
-/

namespace LoraNode.Foundation.Numeral

def numeralValue (base : Nat) (digits : List Nat) : Nat := Nat.ofDigits base digits.reverse

structure Spells (base : Nat) (digits : List Nat) (number : Nat) : Prop where
  nonempty : digits ≠ []
  below : ∀ digit ∈ digits, digit < base
  value : numeralValue base digits = number

def numeral (base number : Nat) : List Nat :=
  if number = 0 then [0] else (Nat.digits base number).reverse

variable {base number : Nat}

theorem numeral_low (low : number < base) : numeral base number = [number] := by
  by_cases zero : number = 0
  · rw [numeral, if_pos zero, zero]
  · rw [numeral, if_neg zero, Nat.digits_of_lt base number zero low]
    rfl

/-- The quotient is written first and the remainder is the last digit. -/
theorem numeral_next (large : 1 < base) (high : base ≤ number) :
    numeral base number = numeral base (number / base) ++ [number % base] := by
  have positive : number ≠ 0 := by omega
  have quotient : number / base ≠ 0 := by
    rw [Nat.div_ne_zero_iff]
    omega
  rw [numeral, numeral, if_neg positive, if_neg quotient,
    Nat.digits_def' large (Nat.pos_of_ne_zero positive), List.reverse_cons]

theorem numeral_spells (large : 1 < base) (number : Nat) :
    Spells base (numeral base number) number := by
  by_cases zero : number = 0
  · subst zero
    refine ⟨List.cons_ne_nil _ _, ?_, rfl⟩
    intro digit member
    rw [List.mem_singleton.mp member]
    omega
  · rw [numeral, if_neg zero]
    refine ⟨?_, ?_, ?_⟩
    · rw [Ne, List.reverse_eq_nil_iff, Nat.digits_eq_nil_iff_eq_zero]
      exact zero
    · intro digit member
      exact Nat.digits_lt_base large (List.mem_reverse.mp member)
    · rw [numeralValue, List.reverse_reverse, Nat.ofDigits_digits]

theorem numeral_length_le {length : Nat} (large : 1 < base) (room : 0 < length)
    (bound : number < base ^ length) : (numeral base number).length ≤ length := by
  by_cases zero : number = 0
  · rw [numeral, if_pos zero]
    exact room
  · rw [numeral, if_neg zero, List.length_reverse, Nat.digits_length_le_iff large]
    exact bound

/-- Every other numeral of the number is longer. -/
theorem numeral_shortest (large : 1 < base) {digits : List Nat} (spells : Spells base digits number)
    (other : digits ≠ numeral base number) : (numeral base number).length < digits.length := by
  have reversed : ∀ digit ∈ digits.reverse, digit < base :=
    fun digit member => spells.below digit (List.mem_reverse.mp member)
  have bound : number < base ^ digits.length := by
    have below := Nat.ofDigits_lt_base_pow_length large reversed
    rw [List.length_reverse] at below
    rw [← spells.value]
    exact below
  have atMost := numeral_length_le large (List.length_pos_iff.mpr spells.nonempty) bound
  have known := numeral_spells large number
  have different : (numeral base number).length ≠ digits.length := by
    intro same
    have equal : (numeral base number).reverse = digits.reverse := by
      apply Nat.ofDigits_inj_of_len_eq large _ _ reversed (known.value.trans spells.value.symm)
      · rw [List.length_reverse, List.length_reverse, same]
      · exact fun digit member => known.below digit (List.mem_reverse.mp member)
    exact other (List.reverse_injective equal).symm
  omega

end LoraNode.Foundation.Numeral
