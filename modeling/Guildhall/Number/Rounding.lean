/-
Guildhall/Number/Rounding.lean

Division rounded to the nearest whole number.  `roundDiv` takes a half to
the even neighbour, as all arithmetic here does; `roundDivUp` takes it to
the greater one.
-/

namespace Guildhall.Number

/-- The quotient rounded to nearest, a half to the even neighbour. -/
def roundDiv (a b : Nat) : Nat :=
  if 2 * (a % b) < b then a / b
  else if 2 * (a % b) = b then a / b + a / b % 2
  else a / b + 1

/-- The quotient rounded to nearest, a half to the greater neighbour. -/
def roundDivUp (a b : Nat) : Nat := (2 * a + b) / (2 * b)

/-- A whole quotient is not changed. -/
theorem roundDiv_mul_right (q : Nat) {b : Nat} (h : 0 < b) : roundDiv (q * b) b = q := by
  simp [roundDiv, h]

/-- The rounded quotient is within half a unit of the exact one. -/
theorem roundDiv_near (a : Nat) {b : Nat} (h : 0 < b) :
    2 * a ≤ 2 * (b * roundDiv a b) + b ∧ 2 * (b * roundDiv a b) ≤ 2 * a + b := by
  have hdiv := Nat.div_add_mod a b
  have hmod := Nat.mod_lt a h
  unfold roundDiv
  split
  · omega
  · split
    · rcases Nat.mod_two_eq_zero_or_one (a / b) with h2 | h2 <;> rw [h2] <;>
        simp only [Nat.add_zero, Nat.mul_add, Nat.mul_one] <;> omega
    · simp only [Nat.mul_add, Nat.mul_one]
      omega

end Guildhall.Number
