/-
Guildhall/Proofs/Rational.lean

Floating-point numbers as rationals.  A finite number stands for its mantissa times a power
of two, with its sign; the infinities and NaN stand for nothing (`toRat?`).  What is left
of a number without its fraction is the rational rounded towards zero:

    x.truncate? = x.toRat?.map towardZero

Main statement: `truncate?_eq`.
-/
import Guildhall.Number.Binary64
import Mathlib.Data.Rat.Floor
import Mathlib.Tactic.Linarith

namespace Guildhall.Number

/-- The whole number next to a rational on the side of zero. -/
def towardZero (q : ℚ) : ℤ := if q < 0 then ⌈q⌉ else ⌊q⌋

theorem towardZero_intCast (n : ℤ) : towardZero n = n := by
  unfold towardZero
  split
  · exact Int.ceil_intCast n
  · exact Int.floor_intCast n

theorem towardZero_neg (q : ℚ) : towardZero (-q) = -towardZero q := by
  unfold towardZero
  rcases lt_trichotomy q 0 with h | rfl | h
  · rw [if_neg (by linarith), if_pos h, Int.floor_neg]
  · rfl
  · rw [if_pos (by linarith), if_neg (by linarith), Int.ceil_neg]

theorem towardZero_of_nonneg {q : ℚ} (h : 0 ≤ q) : towardZero q = ⌊q⌋ :=
  if_neg (not_lt.2 h)

theorem towardZero_nonpos {q : ℚ} (hq : q < 0) : towardZero q ≤ 0 := by
  rw [towardZero, if_pos hq]
  exact Int.ceil_le.2 (by exact_mod_cast hq.le)

/-- Of the rationals below zero, those above minus one are not rounded below zero. -/
theorem towardZero_nonneg_iff {q : ℚ} (hq : q < 0) : 0 ≤ towardZero q ↔ -1 < q := by
  rw [towardZero, if_pos hq, ← not_lt, Int.lt_iff_add_one_le, ← le_sub_iff_add_le, Int.ceil_le,
    not_le]
  norm_num

namespace Binary64

/-- The rational that a number stands for. -/
def toRat? : Binary64 → Option ℚ
  | .finite negative m e => some ((if negative then -1 else 1) * (m * 2 ^ e))
  | _ => none

/-- The absolute value of a finite number, as one quotient. -/
theorem ratio_eq (m : ℕ) (e : ℤ) : ((ratio m e).1 : ℚ) / (ratio m e).2 = m * 2 ^ e := by
  unfold ratio
  obtain ⟨k, rfl | rfl⟩ := e.eq_nat_or_neg
  · rw [Int.toNat_natCast, Int.toNat_neg_natCast, zpow_natCast]
    push_cast [Nat.pow_eq]
    rw [div_one]
  · rw [Int.neg_neg, Int.toNat_neg_natCast, Int.toNat_natCast, zpow_neg, zpow_natCast]
    push_cast [Nat.pow_eq]
    rw [mul_one, div_eq_mul_inv]

theorem wholePart_eq (m : ℕ) (e : ℤ) : (wholePart m e : ℤ) = ⌊(m : ℚ) * 2 ^ e⌋ := by
  rw [← ratio_eq, Rat.floor_natCast_div_natCast]
  exact Int.natCast_div _ _

/-- **A number without its fraction** is the rational that it stands for, rounded towards
zero. -/
theorem truncate?_eq (x : Binary64) : x.truncate? = x.toRat?.map towardZero := by
  cases x with
  | nan => rfl
  | infinite negative => rfl
  | finite negative m e =>
    have hnonneg : (0 : ℚ) ≤ m * 2 ^ e :=
      mul_nonneg (Nat.cast_nonneg m) (zpow_nonneg zero_le_two e)
    have habs : towardZero (m * 2 ^ e) = (wholePart m e : ℤ) := by
      rw [towardZero_of_nonneg hnonneg, wholePart_eq]
    cases negative with
    | false => simp [truncate?, toRat?, habs]
    | true => simp [truncate?, toRat?, towardZero_neg, habs]

end Binary64

end Guildhall.Number
