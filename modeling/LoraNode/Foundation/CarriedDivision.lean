import Mathlib.Tactic.Linarith

/-!
# Division that carries its remainder

Amounts arrive one at a time, each is divided by the same divisor, and the
remainder is carried into the next division. Nothing is lost: the quotients add
up to the quotient of the sum.
-/

namespace LoraNode.Foundation.CarriedDivision

def dividend (divisor quotient remainder : Nat) : Nat := divisor * quotient + remainder

theorem dividend_div {divisor : Nat} (quotient remainder : Nat) (reduced : remainder < divisor) :
    dividend divisor quotient remainder / divisor = quotient := by
  rw [dividend, Nat.mul_add_div (by omega), Nat.div_eq_of_lt reduced, Nat.add_zero]

theorem dividend_mod {divisor : Nat} (quotient remainder : Nat) (reduced : remainder < divisor) :
    dividend divisor quotient remainder % divisor = remainder := by
  rw [dividend, Nat.mul_add_mod, Nat.mod_eq_of_lt reduced]

/-- One carried division, seen from the running sum. -/
theorem carry_div {divisor : Nat} (positive : 0 < divisor) (total amount : Nat) :
    (total + amount) / divisor = total / divisor + (amount + total % divisor) / divisor := by
  have split := Nat.div_add_mod total divisor
  have regroup : total + amount = divisor * (total / divisor) + (amount + total % divisor) := by
    omega
  rw [regroup, Nat.mul_add_div positive]

theorem carry_mod (divisor total amount : Nat) :
    (total + amount) % divisor = (amount + total % divisor) % divisor := by
  rw [Nat.add_comm, Nat.add_mod_mod]

/-- A quotient grows by at least `bound` exactly when the phase lets it. -/
theorem growth_le_iff {divisor : Nat} (positive : 0 < divisor) (total amount bound : Nat) :
    bound ≤ (total + amount) / divisor - total / divisor ↔
      bound * divisor ≤ amount + total % divisor := by
  rw [carry_div positive, Nat.add_sub_cancel_left, Nat.le_div_iff_mul_le positive]

/-- Growth short of `bound` means an amount short of `bound` divisors. -/
theorem growth_lt {divisor total amount bound : Nat} (positive : 0 < divisor)
    (short : (total + amount) / divisor - total / divisor < bound) :
    amount < bound * divisor := by
  have notReached := mt (growth_le_iff positive total amount bound).mpr (Nat.not_le.mpr short)
  omega

/-- Growth past `bound` means an amount above `bound` divisors. -/
theorem growth_gt {divisor total amount bound : Nat} (positive : 0 < divisor)
    (reached : bound < (total + amount) / divisor - total / divisor) :
    bound * divisor < amount := by
  have amountLarge := (growth_le_iff positive total amount (bound + 1)).mp reached
  have phase := Nat.mod_lt total positive
  rw [Nat.succ_mul] at amountLarge
  omega

theorem growth_of_amount {divisor total amount bound : Nat} (positive : 0 < divisor)
    (enough : bound * divisor ≤ amount) :
    bound ≤ (total + amount) / divisor - total / divisor := by
  rw [growth_le_iff positive]
  omega

end LoraNode.Foundation.CarriedDivision
