/-
Guildhall/Proofs/Calendar.lean

The instants of the calendar and their seconds.  Within the calendar the
quotient that is rounded has fewer bits than a mantissa, so cutting it off
again comes within one of the exact quotient, and a whole number of seconds is
kept.

Main statements: `natAbs_seconds_lt`, `ofSeconds?_wholeSecond` and `floatMicros?_ofRatio`.
-/
import Mathlib.Algebra.Group.Nat.Defs
import Guildhall.Calendar

namespace Guildhall.Number.Binary64

/-- A number with a negative power of two as a quotient. -/
theorem ratio_negative (m k : Nat) : ratio m (-(k : Int)) = (m, Nat.pow 2 k) := by
  unfold ratio
  rw [Int.toNat_neg_natCast, Int.neg_neg, Int.toNat_natCast]
  exact congrArg (·, _) (Nat.mul_one m)

theorem wholePart_negative (m k : Nat) : wholePart m (-(k : Int)) = m / Nat.pow 2 k := by
  rw [wholePart, ratio_negative]

theorem wholePart_zero (e : Int) : wholePart 0 e = 0 := by
  unfold wholePart ratio
  rw [Nat.zero_mul, Nat.zero_div]

/-- A quotient far below the greatest mantissa is cut off to a rounded multiple of a
power of two. -/
theorem truncate?_ofRatio (negative : Bool) {a b : Nat} (ha : a ≠ 0) (hp : powerBelow a b ≤ 51) :
    ∃ k, (ofRatio negative a b).truncate? =
      some (if negative then -((roundDiv (a * Nat.pow 2 k) b / Nat.pow 2 k : Nat) : Int)
        else ((roundDiv (a * Nat.pow 2 k) b / Nat.pow 2 k : Nat) : Int)) := by
  obtain ⟨k, hk⟩ : ∃ k : Nat, max (powerBelow a b - 52) (-1074) = -((k + 1 : Nat) : Int) :=
    ⟨(-(max (powerBelow a b - 52) (-1074)) - 1).toNat, by omega⟩
  have hneg : (-(-((k + 1 : Nat) : Int))).toNat = k + 1 := by omega
  have hpos : (-((k + 1 : Nat) : Int)).toNat = 0 := by omega
  refine ⟨k + 1, ?_⟩
  unfold ofRatio
  rw [if_neg ha]
  dsimp only
  rw [hk, hneg, hpos]
  rw [show b * Nat.pow 2 0 = b from Nat.mul_one b]
  generalize roundDiv (a * Nat.pow 2 (k + 1)) b = m
  -- A mantissa that is rounded up to a power of two is halved; its whole part is the
  -- same.
  by_cases hm : m = Nat.pow 2 53
  · have he : -((k + 1 : Nat) : Int) + 1 = -(k : Int) := by omega
    have hhalf : Nat.pow 2 52 / Nat.pow 2 k = m / Nat.pow 2 (k + 1) := by
      rw [hm]
      show 2 ^ 52 / 2 ^ k = 2 ^ 53 / 2 ^ (k + 1)
      rw [Nat.pow_succ 2 52, Nat.pow_succ 2 k, Nat.mul_div_mul_right _ _ (by decide)]
    rw [if_pos hm, if_pos (by omega), truncate?, he, wholePart_negative, hhalf]
  · rw [if_neg hm, if_pos (by omega), truncate?, wholePart_negative]

/-- Rounding a quotient to the nearest whole number does not pass one. -/
theorem roundDiv_le {a b n : Nat} (hb : 0 < b) (h : a ≤ n * b) : roundDiv a b ≤ n := by
  have hnear := (roundDiv_near a hb).2
  apply Nat.le_of_not_lt
  intro hgreater
  have hmore := Nat.mul_le_mul_left b hgreater
  rw [Nat.mul_succ, Nat.mul_comm b n] at hmore
  omega

/-- Neither does rounding it to the nearest floating-point number. -/
theorem ofRatio_le (negative : Bool) {a b n : Nat} (hb : 0 < b) (hle : a ≤ n * b)
    (hp : a ≠ 0 → powerBelow a b ≤ 51) :
    ∃ m k : Nat, ofRatio negative a b = .finite negative m (-(k : Int)) ∧ m ≤ n * Nat.pow 2 k := by
  by_cases ha : a = 0
  · exact ⟨0, 1074, if_pos ha, Nat.zero_le _⟩
  obtain ⟨k, hk⟩ : ∃ k : Nat, max (powerBelow a b - 52) (-1074) = -((k + 1 : Nat) : Int) := by
    have := hp ha
    exact ⟨(-(max (powerBelow a b - 52) (-1074)) - 1).toNat, by omega⟩
  have hneg : (-(-((k + 1 : Nat) : Int))).toNat = k + 1 := by omega
  have hpos : (-((k + 1 : Nat) : Int)).toNat = 0 := by omega
  have hround : roundDiv (a * Nat.pow 2 (k + 1)) b ≤ n * Nat.pow 2 (k + 1) := by
    refine roundDiv_le hb ?_
    calc a * Nat.pow 2 (k + 1) ≤ n * b * Nat.pow 2 (k + 1) := Nat.mul_le_mul_right _ hle
      _ = n * Nat.pow 2 (k + 1) * b := Nat.mul_right_comm ..
  unfold ofRatio
  rw [if_neg ha]
  dsimp only
  rw [hk, hneg, hpos, show b * Nat.pow 2 0 = b from Nat.mul_one b]
  generalize roundDiv (a * Nat.pow 2 (k + 1)) b = m at hround ⊢
  by_cases hm : m = Nat.pow 2 53
  · -- A mantissa that is rounded up to a power of two is halved.
    rw [if_pos hm, if_pos (by omega)]
    refine ⟨Nat.pow 2 52, k, congrArg _ (by omega), ?_⟩
    rw [hm, show Nat.pow 2 53 = Nat.pow 2 52 * 2 from rfl,
      show Nat.pow 2 (k + 1) = Nat.pow 2 k * 2 from rfl, ← Nat.mul_assoc] at hround
    exact Nat.le_of_mul_le_mul_right hround Nat.two_pos
  · rw [if_neg hm, if_pos (by omega)]
    exact ⟨m, k + 1, rfl, hround⟩

end Guildhall.Number.Binary64

namespace Guildhall.Instant

open Number

/-- The calendar holds less than `2 ^ 58` microseconds on either side of 1970. -/
theorem natAbs_micros_lt {t : Instant} (h : t.inCalendar = true) : t.micros.natAbs < 2 ^ 58 := by
  unfold inCalendar firstSecond lastSecond at h
  simp only [Bool.and_eq_true, decide_eq_true_eq] at h
  omega

/-- The seconds of an instant of the calendar are far below the greatest mantissa. -/
theorem powerBelow_micros {t : Instant} (h : t.inCalendar = true) (hne : t.micros.natAbs ≠ 0) :
    Binary64.powerBelow t.micros.natAbs 1000000 ≤ 51 := by
  have hlog : t.micros.natAbs.log2 < 58 := (Nat.log2_lt hne).2 (natAbs_micros_lt h)
  have hlogMillion : Nat.log2 1000000 = 19 := by decide
  unfold Binary64.powerBelow
  rw [hlogMillion]
  dsimp only
  split <;> omega

/-- The seconds of an instant of the calendar: the size is rounded to a multiple of a
power of two and then cut off. -/
theorem natAbs_seconds {t : Instant} (h : t.inCalendar = true) :
    ∃ power, 0 < power ∧
      t.seconds.natAbs = roundDiv (t.micros.natAbs * power) 1000000 / power ∧
      (t.micros < 0 → t.seconds ≤ 0) ∧ (0 ≤ t.micros → 0 ≤ t.seconds) := by
  unfold seconds
  by_cases hzero : t.micros.natAbs = 0
  · refine ⟨1, Nat.one_pos, ?_⟩
    rw [hzero, Binary64.ofRatio, if_pos rfl, Binary64.truncate?, Binary64.wholePart_zero,
      if_neg (by rw [decide_eq_true_eq]; omega)]
    exact ⟨rfl, fun _ => Int.le_refl 0, fun _ => Int.le_refl 0⟩
  · obtain ⟨k, hk⟩ :=
      Binary64.truncate?_ofRatio (decide (t.micros < 0)) hzero (powerBelow_micros h hzero)
    refine ⟨Nat.pow 2 k, Nat.pow_pos (by decide), ?_⟩
    rw [hk, Option.getD_some]
    generalize roundDiv (t.micros.natAbs * Nat.pow 2 k) 1000000 / Nat.pow 2 k = quotient
    split <;> rename_i hsign <;> rw [decide_eq_true_eq] at hsign <;> omega

/-- An instant of the calendar has few seconds. -/
theorem natAbs_seconds_lt {t : Instant} (h : t.inCalendar = true) :
    t.seconds.natAbs < 10 ^ 19 := by
  obtain ⟨power, -, hseconds, -⟩ := natAbs_seconds h
  have hmicros := natAbs_micros_lt h
  -- What is rounded is at most half a unit above the exact quotient.
  have hnear := (roundDiv_near (t.micros.natAbs * power) (b := 1000000) (by decide)).2
  have hbound : roundDiv (t.micros.natAbs * power) 1000000 ≤ power * (t.micros.natAbs + 1) := by
    rw [Nat.mul_add, Nat.mul_one, Nat.mul_comm power]
    omega
  have hwhole := Nat.div_le_of_le_mul hbound
  omega

/-- The start of a second is read back from its seconds. -/
theorem ofSeconds?_wholeSecond {t : Instant} (h : t.wholeSecond.inCalendar = true) :
    ofSeconds? t.wholeSecond.seconds = some t.wholeSecond := by
  have hmicros : t.wholeSecond.micros = t.micros / 1000000 * 1000000 := by
    show t.micros - t.micros % 1000000 = _
    omega
  obtain ⟨power, hpower, hseconds, hneg, hpos⟩ := natAbs_seconds h
  -- A multiple of a million is divided without a rest, so nothing is rounded.
  have hexact : t.wholeSecond.seconds.natAbs = (t.micros / 1000000).natAbs := by
    have habs : t.wholeSecond.micros.natAbs = (t.micros / 1000000).natAbs * 1000000 := by omega
    rw [hseconds, habs, Nat.mul_right_comm, roundDiv_mul_right _ (by decide),
      Nat.mul_div_cancel _ hpower]
  have hback : t.wholeSecond.seconds * 1000000 = t.wholeSecond.micros := by omega
  unfold ofSeconds? ofMicros?
  rw [hback, if_pos h]

theorem ofMicros?_eq_some {n : Int} {t : Instant} :
    ofMicros? n = some t ↔ t = ⟨n⟩ ∧ t.inCalendar = true := by
  unfold ofMicros?
  split
  · rename_i hn
    constructor
    · intro h
      obtain rfl := Option.some.inj h
      exact ⟨rfl, hn⟩
    · rintro ⟨rfl, -⟩
      rfl
  · rename_i hn
    constructor
    · rintro ⟨⟩
    · rintro ⟨rfl, h⟩
      exact absurd h hn

/-- The whole seconds that are instants are those of the years 1 to 9999. -/
theorem ofSeconds?_eq_some {n : Int} {t : Instant} :
    ofSeconds? n = some t ↔ firstSecond ≤ n ∧ n ≤ lastSecond ∧ t = ⟨n * 1000000⟩ := by
  unfold ofSeconds?
  rw [ofMicros?_eq_some]
  constructor
  · rintro ⟨rfl, h⟩
    unfold inCalendar at h
    simp only [Bool.and_eq_true, decide_eq_true_eq] at h
    exact ⟨by omega, by omega, rfl⟩
  · rintro ⟨hfirst, hlast, rfl⟩
    refine ⟨rfl, ?_⟩
    unfold inCalendar
    simp only [Bool.and_eq_true, decide_eq_true_eq]
    omega

/-- What is made of microseconds is in the calendar. -/
theorem inCalendar_of_ofMicros? {n : Int} {t : Instant} (h : ofMicros? n = some t) :
    t.inCalendar = true := (ofMicros?_eq_some.1 h).2

/-- The start of a second of the calendar is in the calendar. -/
theorem inCalendar_wholeSecond {t : Instant} (h : t.inCalendar = true) :
    t.wholeSecond.inCalendar = true := by
  unfold inCalendar firstSecond lastSecond at h ⊢
  unfold wholeSecond
  simp only [Bool.and_eq_true, decide_eq_true_eq] at h ⊢
  omega

/-- A fraction below one has at most a million microseconds. -/
theorem fractionMicros_le {a k : Nat} (h : a < Nat.pow 2 k) :
    fractionMicros a (Nat.pow 2 k) ≤ 1000000 := by
  have hpow : 0 < Nat.pow 2 k := Nat.pow_pos Nat.two_pos
  have hp : a * 1000000 ≠ 0 → Binary64.powerBelow (a * 1000000) (Nat.pow 2 k) ≤ 51 := by
    intro hne
    have hlog : (a * 1000000).log2 < k + 20 := by
      refine (Nat.log2_lt hne).2 ?_
      calc a * 1000000 < 2 ^ k * 2 ^ 20 := Nat.mul_lt_mul'' h (by decide)
        _ = 2 ^ (k + 20) := (Nat.pow_add 2 k 20).symm
    have hbase : (Nat.pow 2 k).log2 = k := Nat.log2_two_pow
    unfold Binary64.powerBelow
    rw [hbase]
    dsimp only
    split <;> omega
  have hle : a * 1000000 ≤ 1000000 * Nat.pow 2 k := by
    rw [Nat.mul_comm]
    exact Nat.mul_le_mul_left _ (Nat.le_of_lt h)
  obtain ⟨m, j, hround, hm⟩ := Binary64.ofRatio_le false hpow hle hp
  rw [fractionMicros, hround, Binary64.nearestWhole, Binary64.ratio_negative]
  exact Binary64.roundDiv_le (Nat.pow_pos Nat.two_pos) hm

/-- What is told of an instant by a floating-point number of seconds is less than two
seconds farther from 1970. -/
theorem floatMicros?_ofRatio {t : Instant} (h : t.inCalendar = true) :
    ∃ n : Int, floatMicros? (Binary64.ofRatio (t.micros < 0) t.micros.natAbs 1000000) = some n ∧
      n.natAbs ≤ t.micros.natAbs + 2000000 ∧ (t.micros < 0 → n ≤ 0) ∧ (0 ≤ t.micros → 0 ≤ n) := by
  have hle : t.micros.natAbs ≤ (t.micros.natAbs / 1000000 + 1) * 1000000 := by omega
  obtain ⟨m, k, hround, hm⟩ := Binary64.ofRatio_le (decide (t.micros < 0)) (by decide) hle
    (powerBelow_micros h)
  have hwhole : m / Nat.pow 2 k ≤ t.micros.natAbs / 1000000 + 1 :=
    Nat.div_le_of_le_mul (Nat.mul_comm .. ▸ hm)
  have hfraction := fractionMicros_le (Nat.mod_lt m (Nat.pow_pos (n := k) Nat.two_pos))
  refine ⟨_, by rw [hround, floatMicros?], ?_⟩
  rw [Binary64.ratio_negative]
  dsimp only
  split <;> rename_i hsign <;> rw [decide_eq_true_eq] at hsign <;> omega

end Guildhall.Instant
