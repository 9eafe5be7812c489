/-
Guildhall/Proofs/Numeral.lean

Decimal digits.  The digits of a number are ASCII digits, the first of them is
no zero unless the number is, and they are read back as the number.  A number
that is read from a text has few enough digits to be written.
-/
import Mathlib.Algebra.Group.Nat.Defs
import Guildhall.Number.Binary64

namespace Guildhall.Text.Numeral

theorem isDigit_digit : ∀ d, d < 10 → (digit d).isDigit = true := by decide

theorem toNat_digit : ∀ d, d < 10 → (digit d).toNat - 48 = d := by decide

theorem eq_zero_of_digit : ∀ d, d < 10 → digit d = '0' → d = 0 := by decide

/-- The digits of a number are those of its tenth and one more. -/
theorem natDigits_eq (n : Nat) :
    natDigits n = if n < 10 then [digit n] else natDigits (n / 10) ++ [digit (n % 10)] := by
  show digitsOnto n [] = _
  rw [digitsOnto.eq_def]
  by_cases h : n < 10
  · rw [if_pos h, if_pos h]
  · rw [if_neg h, if_neg h, digitsOnto_eq_append]

theorem natDigits_ne_nil (n : Nat) : natDigits n ≠ [] := by
  rw [natDigits_eq]
  by_cases h : n < 10
  · rw [if_pos h]
    exact List.cons_ne_nil _ _
  · rw [if_neg h]
    exact List.append_ne_nil_of_right_ne_nil _ (List.cons_ne_nil _ _)

theorem isDigit_of_mem_natDigits (n : Nat) : ∀ c ∈ natDigits n, c.isDigit = true := by
  induction n using Nat.strongRecOn with
  | _ n ih =>
    intro c hc
    rw [natDigits_eq] at hc
    by_cases h : n < 10
    · rw [if_pos h] at hc
      rw [List.mem_singleton.1 hc]
      exact isDigit_digit n h
    · rw [if_neg h] at hc
      rcases List.mem_append.1 hc with hc | hc
      · exact ih (n / 10) (by omega) c hc
      · rw [List.mem_singleton.1 hc]
        exact isDigit_digit (n % 10) (by omega)

/-- The digits of a number that is not zero do not begin with a zero. -/
theorem natDigits_eq_cons_zero {n : Nat} {ds : List Char} (h : natDigits n = '0' :: ds) :
    n = 0 ∧ ds = [] := by
  induction n using Nat.strongRecOn generalizing ds with
  | _ n ih =>
    rw [natDigits_eq] at h
    by_cases hn : n < 10
    · rw [if_pos hn] at h
      obtain ⟨hdigit, hds⟩ := List.cons.inj h
      exact ⟨eq_zero_of_digit n hn hdigit, hds.symm⟩
    · rw [if_neg hn] at h
      -- The tenth begins with the same digit, but it is not zero.
      obtain ⟨c, cs, hcs⟩ := List.exists_cons_of_ne_nil (natDigits_ne_nil (n / 10))
      rw [hcs, List.cons_append] at h
      rw [(List.cons.inj h).1] at hcs
      have := (ih (n / 10) (by omega) hcs).1
      omega

/-- A number below a power of ten has no more digits than the exponent says. -/
theorem length_natDigits_le {n : Nat} (k : Nat) (h : n < 10 ^ (k + 1)) :
    (natDigits n).length ≤ k + 1 := by
  induction k generalizing n with
  | zero =>
    rw [natDigits_eq, if_pos (by simpa using h)]
    exact Nat.le_refl 1
  | succ k ih =>
    rw [natDigits_eq]
    by_cases hn : n < 10
    · rw [if_pos hn]
      exact Nat.le_add_left 1 (k + 1)
    · rw [if_neg hn, List.length_append]
      have htenth : n / 10 < 10 ^ (k + 1) := by
        apply Nat.div_lt_of_lt_mul
        rw [Nat.pow_succ'] at h
        exact h
      exact Nat.succ_le_succ (ih htenth)

/-- A number from a power of ten on has more digits than the exponent says. -/
theorem lt_length_natDigits {n : Nat} (k : Nat) (h : 10 ^ k ≤ n) : k < (natDigits n).length := by
  induction k generalizing n with
  | zero => exact List.length_pos_iff.2 (natDigits_ne_nil n)
  | succ k ih =>
    have hten : 10 ^ (k + 1) = 10 * 10 ^ k := Nat.pow_succ'
    have hpos : 0 < 10 ^ k := Nat.pow_pos (by decide)
    rw [natDigits_eq, if_neg (by omega), List.length_append]
    exact Nat.succ_lt_succ (ih (by omega))

/-- The numbers that are written are those below a power of ten. -/
theorem isWritable_iff {n : Int} : isWritable n = true ↔ n.natAbs < 10 ^ digitLimit := by
  have hlimit : digitLimit = 4299 + 1 := rfl
  rw [isWritable, decide_eq_true_iff, hlimit]
  constructor
  · intro h
    exact Nat.not_le.1 fun hle => Nat.not_lt.2 h (lt_length_natDigits _ hle)
  · exact length_natDigits_le 4299

/-- A number of 64 bits is written. -/
theorem isWritable_of_lt {n : Int} (h : n.natAbs < 10 ^ 19) : isWritable n = true :=
  isWritable_iff.2 (Nat.lt_of_lt_of_le h (Nat.pow_le_pow_right (by decide) (by decide)))

/-! ### Reading -/

open Number

theorem readDigits_append {ds : List Char} (h : ∀ c ∈ ds, c.isDigit = true) (rest : List Char)
    (value count : Nat) :
    Binary64.readDigits value count (ds ++ rest) =
      Binary64.readDigits (ds.foldl (fun n c => 10 * n + (c.toNat - 48)) value)
        (count + ds.length) rest := by
  induction ds generalizing value count with
  | nil => rfl
  | cons d ds ih =>
    rw [List.cons_append, Binary64.readDigits, if_pos (h d List.mem_cons_self),
      ih fun c hc => h c (List.mem_cons_of_mem d hc), List.foldl_cons, List.length_cons,
      Nat.add_right_comm, Nat.add_assoc]

theorem foldl_natDigits (n : Nat) :
    (natDigits n).foldl (fun n c => 10 * n + (c.toNat - 48)) 0 = n := by
  induction n using Nat.strongRecOn with
  | _ n ih =>
    rw [natDigits_eq]
    by_cases h : n < 10
    · rw [if_pos h, List.foldl_cons, List.foldl_nil, toNat_digit n h]
      omega
    · rw [if_neg h, List.foldl_append, ih (n / 10) (by omega), List.foldl_cons, List.foldl_nil,
        toNat_digit (n % 10) (by omega)]
      omega

/-- The digits of a number are read back. -/
theorem readDigits_natDigits (n : Nat) : (Binary64.readDigits 0 0 (natDigits n)).1 = n := by
  have h := readDigits_append (isDigit_of_mem_natDigits n) [] 0 0
  rw [List.append_nil, foldl_natDigits] at h
  rw [h]
  rfl

/-! ### How large a number is that is read -/

/-- One more digit makes a number larger by a power of ten. -/
theorem lt_of_digit {value d k n : Nat} (hd : d < 10) (hn : n < (10 * value + d + 1) * 10 ^ k) :
    n < (value + 1) * 10 ^ (k + 1) := by
  refine Nat.lt_of_lt_of_le hn ?_
  rw [Nat.pow_succ', ← Nat.mul_assoc]
  exact Nat.mul_le_mul_right _ (by omega)

/-- What ASCII digits are read as is below a power of ten. -/
theorem readDigits_lt_length (value count : Nat) (cs : List Char) :
    (Binary64.readDigits value count cs).1 < (value + 1) * 10 ^ cs.length := by
  induction cs generalizing value count with
  | nil =>
    show value < (value + 1) * 1
    omega
  | cons c cs ih =>
    rw [Binary64.readDigits]
    split
    · rename_i hdigit
      have hc : c.toNat ≤ 57 := (Char.isDigit_iff_toNat.1 hdigit).2
      exact lt_of_digit (by omega) (ih _ _)
    · exact Nat.lt_of_lt_of_le (Nat.lt_succ_self value)
        (Nat.le_mul_of_pos_right _ (Nat.pow_pos (by decide)))

/-- What few enough digits are read as can be written. -/
theorem readDigits_lt_limit {ds : List Char} (h : ds.length ≤ digitLimit) :
    (Binary64.readDigits 0 0 ds).1 < 10 ^ digitLimit := by
  have hlength := readDigits_lt_length 0 0 ds
  rw [Nat.zero_add, Nat.one_mul] at hlength
  exact Nat.lt_of_lt_of_le hlength (Nat.pow_le_pow_right (by decide) h)

/-- What digits of any script are read as is below the power of ten of their number. -/
theorem readDigits_lt {cs rest : List Char} {value count n total : Nat}
    (h : readDigits value count cs = some (n, total, rest)) :
    ∃ k, total = count + k ∧ n < (value + 1) * 10 ^ k := by
  fun_induction readDigits value count cs with
  | case1 value count c rest d hd ih =>
    obtain ⟨k, rfl, hn⟩ := ih h
    exact ⟨k + 1, by omega, lt_of_digit (digitValue?_lt hd) hn⟩
  | case2 => cases h
  | case3 value count c rest hne d hd ih =>
    obtain ⟨k, rfl, hn⟩ := ih h
    exact ⟨k + 1, by omega, lt_of_digit (digitValue?_lt hd) hn⟩
  | case4 => cases h
  | case5 value count =>
    cases h
    exact ⟨0, rfl, by omega⟩
  | case6 value count =>
    cases h
    exact ⟨0, rfl, by omega⟩

theorem readNat_lt {cs : List Char} {n : Nat} (h : readNat cs = .ok n) : n < 10 ^ digitLimit := by
  unfold readNat at h
  split at h
  · cases h
  · split at h
    · cases h
    · rename_i d hd
      split at h
      · cases h
      · rename_i hread
        split at h
        · cases h
        · rename_i hcount
          split at h
          · cases h
            -- The first digit and the ones behind it are no more than the limit.
            obtain ⟨k, rfl, hn⟩ := readDigits_lt hread
            calc
              n < (d + 1) * 10 ^ k := hn
              _ ≤ 10 * 10 ^ k := Nat.mul_le_mul_right _ (digitValue?_lt hd)
              _ = 10 ^ (1 + k) := by rw [Nat.pow_add]
              _ ≤ 10 ^ digitLimit := Nat.pow_le_pow_right (by decide) (Nat.not_lt.1 hcount)
          · cases h

/-- A number that is read has the digits of its absolute value. -/
theorem exists_readNat_of_read {s : String} {n : Int} (h : read s = .ok n) :
    ∃ cs, readNat cs = .ok n.natAbs := by
  have hplus : ∀ {x : Except Fault Nat}, x.map Int.ofNat = .ok n → x = .ok n.natAbs := by
    rintro (_ | k) ⟨⟩
    rfl
  have hminus : ∀ {x : Except Fault Nat},
      (do let k ← x; pure (k : Int)).map (- ·) = .ok n → x = .ok n.natAbs := by
    rintro (_ | k) ⟨⟩
    exact congrArg Except.ok (Int.natAbs_neg k).symm
  unfold read at h
  split at h
  · exact ⟨_, hminus h⟩
  · exact ⟨_, hplus h⟩
  · exact ⟨_, hplus h⟩

/-- **A number that is read can be written.** -/
theorem isWritable_of_read {s : String} {n : Int} (h : read s = .ok n) : isWritable n = true := by
  obtain ⟨cs, hread⟩ := exists_readNat_of_read h
  exact isWritable_iff.2 (readNat_lt hread)

end Guildhall.Text.Numeral
