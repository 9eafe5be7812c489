/-
Guildhall/Proofs/Base64Url.lean

Bytes that are written in base64 are read back.  Every character that is
written is a symbol of the alphabet, so none of them is a mark of padding, a
point or white space.

Main statement: `decode_encode`.
-/
import Guildhall.Codec.Base64Url
import Guildhall.Text.Blank

namespace Guildhall.Codec.Base64Url

/-! ### Symbols -/

/-- Every value of six bits is read back from its symbol. -/
theorem value?_symbol : ∀ n, n < 64 → value? (symbol n) = some n := by decide

/-- What has a value is a letter, a digit, a dash or a low line. -/
theorem toNat_of_value? {c : Char} (h : (value? c).isSome) :
    (65 ≤ c.toNat ∧ c.toNat ≤ 90) ∨ (97 ≤ c.toNat ∧ c.toNat ≤ 122) ∨
      (48 ≤ c.toNat ∧ c.toNat ≤ 57) ∨ c = '-' ∨ c = '_' := by
  unfold value? at h
  simp only [Bool.and_eq_true, decide_eq_true_eq] at h
  split at h
  · exact .inl ‹_›
  · split at h
    · exact .inr (.inl ‹_›)
    · split at h
      · exact .inr (.inr (.inl ‹_›))
      · split at h
        · exact .inr (.inr (.inr (.inl ‹_›)))
        · split at h
          · exact .inr (.inr (.inr (.inr ‹_›)))
          · cases h

/-- A symbol is no white space. -/
theorem isBlank_of_value? {c : Char} (h : (value? c).isSome) : Text.isBlank c = false := by
  rcases toNat_of_value? h with h | h | h | rfl | rfl
  · simp [Text.isBlank]
    omega
  · simp [Text.isBlank]
    omega
  · simp [Text.isBlank]
    omega
  · rfl
  · rfl

/-- What is written consists of symbols. -/
theorem value?_of_mem_encode (bytes : List UInt8) :
    ∀ c ∈ encode bytes, (value? c).isSome := by
  have hsymbol : ∀ n, n < 64 → (value? (symbol n)).isSome := fun n hn => by
    rw [value?_symbol n hn]
    rfl
  fun_induction encode bytes with
  | case1 a b c rest n ih =>
    have ha := a.toNat_lt
    have hb := b.toNat_lt
    have hc := c.toNat_lt
    intro d hd
    simp only [List.mem_cons] at hd
    rcases hd with rfl | rfl | rfl | rfl | hd
    · exact hsymbol _ (by omega)
    · exact hsymbol _ (by omega)
    · exact hsymbol _ (by omega)
    · exact hsymbol _ (by omega)
    · exact ih d hd
  | case2 a b n =>
    have ha := a.toNat_lt
    have hb := b.toNat_lt
    intro d hd
    simp only [List.mem_cons, List.not_mem_nil, or_false] at hd
    rcases hd with rfl | rfl | rfl
    · exact hsymbol _ (by omega)
    · exact hsymbol _ (by omega)
    · exact hsymbol _ (by omega)
  | case3 a n =>
    have ha := a.toNat_lt
    intro d hd
    simp only [List.mem_cons, List.not_mem_nil, or_false] at hd
    rcases hd with rfl | rfl
    · exact hsymbol _ (by omega)
    · exact hsymbol _ (by omega)
  | case4 =>
    intro d hd
    cases hd

/-- A character without a value is not written. -/
theorem not_mem_encode {c : Char} (h : value? c = none) (bytes : List UInt8) :
    c ∉ encode bytes := by
  intro hc
  have := value?_of_mem_encode bytes c hc
  rw [h] at this
  cases this

/-! ### Groups -/

/-- A byte is made of the eight lowest bits. -/
theorem ofNat_low (k : Nat) (b : UInt8) : UInt8.ofNat (k * 256 + b.toNat) = b := by
  apply UInt8.toNat_inj.1
  have hb := b.toNat_lt
  rw [UInt8.toNat_ofNat']
  omega

theorem decodeBare_encode (bytes : List UInt8) : decodeBare (encode bytes) = some bytes := by
  fun_induction encode bytes with
  | case1 a b c rest n ih =>
    -- Three bytes make one number, and four symbols its digits.
    have ha := a.toNat_lt
    have hb := b.toNat_lt
    have hc := c.toNat_lt
    have hsum : n / 262144 * 262144 + n / 4096 % 64 * 4096 + n / 64 % 64 * 64 + n % 64 = n := by
      omega
    have h₁ : n / 65536 = 0 * 256 + a.toNat := by omega
    have h₂ : n / 256 = a.toNat * 256 + b.toNat := by omega
    have h₃ : n = (a.toNat * 256 + b.toNat) * 256 + c.toNat := by
      show a.toNat * 65536 + b.toNat * 256 + c.toNat = _
      rw [Nat.add_mul, Nat.mul_assoc]
    have hlast : UInt8.ofNat n = c := (congrArg UInt8.ofNat h₃).trans (ofNat_low _ c)
    rw [decodeBare, value?_symbol _ (by omega), value?_symbol _ (by omega),
      value?_symbol _ (by omega), value?_symbol _ (by omega), ih]
    simp only [Option.bind_eq_bind, Option.bind_some, Option.pure_def]
    rw [hsum, hlast, h₁, h₂, ofNat_low, ofNat_low]
  | case2 a b n =>
    -- Two bytes leave two bits over in the last symbol, which are zero.
    have ha := a.toNat_lt
    have hb := b.toNat_lt
    have hsum : n / 4096 * 4096 + n / 64 % 64 * 64 + n % 64 = n := by omega
    have h₁ : n / 1024 = 0 * 256 + a.toNat := by omega
    have h₂ : n / 4 = a.toNat * 256 + b.toNat := by omega
    rw [decodeBare, value?_symbol _ (by omega), value?_symbol _ (by omega),
      value?_symbol _ (by omega)]
    simp only [Option.bind_eq_bind, Option.bind_some, Option.pure_def]
    rw [hsum, if_pos (by omega), h₁, h₂, ofNat_low, ofNat_low]
  | case3 a n =>
    -- One byte leaves four bits over.
    have ha := a.toNat_lt
    have hsum : n / 64 * 64 + n % 64 = n := by omega
    have h₁ : n / 16 = 0 * 256 + a.toNat := by omega
    rw [decodeBare, value?_symbol _ (by omega), value?_symbol _ (by omega)]
    simp only [Option.bind_eq_bind, Option.bind_some, Option.pure_def]
    rw [hsum, if_pos (by omega), h₁, ofNat_low]
  | case4 => rfl

/-! ### Padding -/

/-- Nothing is dropped from a text without marks of padding. -/
theorem dropPadding_of_not_mem {cs : List Char} (h : '=' ∉ cs) : dropPadding cs = cs := by
  have hrev : '=' ∉ cs.reverse := fun hmem => h (List.mem_reverse.1 hmem)
  unfold dropPadding
  split
  · split
    · rename_i rest heq
      rw [heq] at hrev
      exact absurd List.mem_cons_self hrev
    · rename_i rest heq
      rw [heq] at hrev
      exact absurd List.mem_cons_self hrev
    · rfl
  · rfl

/-- **What is written is read back.** -/
theorem decode_encode (bytes : List UInt8) : decode (encode bytes) = some bytes := by
  unfold decode
  rw [dropPadding_of_not_mem (not_mem_encode rfl bytes), decodeBare_encode]

end Guildhall.Codec.Base64Url
