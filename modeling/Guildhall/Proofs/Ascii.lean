/-
Guildhall/Proofs/Ascii.lean

Text in ASCII.  Its bytes show no other encoding than UTF-8, so they are read
as the text again, and compact JSON is such a text.

Main statements: `decodeAny?_encode` and `isAscii_writeChars`.
-/
import Guildhall.Proofs.JsonValue
import Guildhall.Text.Encoding

namespace Guildhall

namespace Text

/-- A text of ASCII characters, none of which is the zero. -/
def IsAscii (cs : List Char) : Prop := ∀ c ∈ cs, 0 < c.toNat ∧ c.toNat < 0x80

instance (cs : List Char) : Decidable (IsAscii cs) :=
  decidable_of_iff ((cs.all fun c => decide (0 < c.toNat ∧ c.toNat < 0x80)) = true) (by
    simp [IsAscii])

/-! ### Bytes -/

/-- The bytes of a text in ASCII. -/
theorem encode_of_isAscii {cs : List Char} (h : IsAscii cs) :
    Utf8.encode cs = cs.map fun c => UInt8.ofNat c.toNat := by
  induction cs with
  | nil => rfl
  | cons c cs ih =>
    have hc := h c List.mem_cons_self
    rw [Utf8.encode_cons, ih fun d hd => h d (List.mem_cons_of_mem c hd), Utf8.encodeChar,
      if_pos hc.2]
    rfl

theorem toNat_ofNat_of_ascii {c : Char} (h : c.toNat < 0x80) :
    (UInt8.ofNat c.toNat).toNat = c.toNat := by
  rw [UInt8.toNat_ofNat', Nat.mod_eq_of_lt (by omega)]

/-- The bytes of a text in ASCII are neither zero nor those of a mark. -/
theorem range_of_mem_encode {cs : List Char} (h : IsAscii cs) :
    ∀ b ∈ Utf8.encode cs, b ≠ 0 ∧ b.toNat < 0x80 := by
  rw [encode_of_isAscii h]
  intro b hb
  obtain ⟨c, hc, rfl⟩ := List.mem_map.1 hb
  have hrange := h c hc
  have hnat := toNat_ofNat_of_ascii hrange.2
  constructor
  · intro hzero
    rw [hzero] at hnat
    have : c.toNat = 0 := hnat.symm
    omega
  · rw [hnat]
    exact hrange.2

/-- Bytes without zeros show UTF-8. -/
theorem ofZeros_of_ne_zero {bytes : List UInt8} (h : ∀ b ∈ bytes, b ≠ 0) :
    Encoding.ofZeros bytes = .utf8 := by
  unfold Encoding.ofZeros
  split
  · exact absurd rfl (h 0 (by simp))
  · exact absurd rfl (h 0 (by simp))
  · exact absurd rfl (h 0 (by simp))
  · exact absurd rfl (h 0 (by simp))
  · rfl

theorem detect_encode {cs : List Char} (h : IsAscii cs) :
    Encoding.detect (Utf8.encode cs) = (.utf8, Utf8.encode cs) := by
  have hrange := range_of_mem_encode h
  generalize Utf8.encode cs = bytes at hrange ⊢
  unfold Encoding.detect
  -- Every mark of another encoding begins with a byte that no character in ASCII has.
  split
  · exact absurd rfl (hrange 0 (by simp)).1
  · exact absurd (hrange 0xFF (by simp)).2 (by decide)
  · exact absurd (hrange 0xFF (by simp)).2 (by decide)
  · exact absurd (hrange 0xFF (by simp)).2 (by decide)
  · exact absurd (hrange 0xEF (by simp)).2 (by decide)
  · rw [ofZeros_of_ne_zero fun b hb => (hrange b hb).1]

theorem scan_encode {cs : List Char} (h : IsAscii cs) (halves : Bool) :
    Utf8.scan halves none (Utf8.encode cs) = cs.map some := by
  rw [encode_of_isAscii h]
  induction cs with
  | nil => rfl
  | cons c cs ih =>
    have hc := h c List.mem_cons_self
    have hnat := toNat_ofNat_of_ascii hc.2
    have hlead : Utf8.lead halves (UInt8.ofNat c.toNat) = .whole c := by
      rw [Utf8.lead, hnat, if_pos hc.2, Char.ofNat_toNat]
    rw [List.map_cons, Utf8.scan, hlead, List.map_cons,
      ← ih fun d hd => h d (List.mem_cons_of_mem c hd)]

/-- **The bytes of a text in ASCII are read as the text.** -/
theorem decodeAny?_encode {cs : List Char} (h : IsAscii cs) :
    decodeAny? (Utf8.encode cs) = some (cs, false) := by
  have hmap : ∀ cs : List Char, (cs.map some).mapM id = some cs := by
    intro cs
    induction cs with
    | nil => rfl
    | cons c cs ih =>
      rw [List.map_cons, List.mapM_cons, ih]
      rfl
  have hdecode : Encoding.utf8.decode? false (Utf8.encode cs) = some cs := by
    show (Utf8.scan false none (Utf8.encode cs)).mapM id = _
    rw [scan_encode h, hmap]
  unfold decodeAny?
  rw [detect_encode h]
  dsimp only
  rw [hdecode]

end Text

namespace Json

open Text Text.Numeral

/-! ### Compact JSON -/

theorem isAscii_of_isPrint {cs : List Char} (h : ∀ c ∈ cs, IsPrint c) : IsAscii cs := by
  intro c hc
  obtain ⟨hleast, hmost⟩ := h c hc
  omega

theorem isAscii_hexDigits (width n : Nat) : IsAscii (hexDigits width n) :=
  isAscii_of_isPrint (isPrint_hexDigits width n)

theorem isAscii_escapeAscii (c : Char) : IsAscii (escapeAscii c) := by
  have h := asciiEscape c
  generalize escapeAscii c = cs at h
  refine isAscii_of_isPrint ?_
  cases h with
  | short hd _ =>
    exact List.forall_mem_cons.2
      ⟨by decide, List.forall_mem_singleton.2 (isPrint_of_shortEscape? hd)⟩
  | plain _ _ hc => exact List.forall_mem_singleton.2 hc
  | unit _ => exact isPrint_unitEscape _
  | pair _ _ _ => exact List.forall_mem_append.2 ⟨isPrint_unitEscape _, isPrint_unitEscape _⟩

/-- The compact style writes ASCII. -/
theorem compact_stays : compact.Stays fun c => 0 < c.toNat ∧ c.toNat < 0x80 where
  print c hc := isAscii_of_isPrint (List.forall_mem_singleton.2 hc) c List.mem_cons_self
  text := isAscii_escapeAscii
  comma := List.forall_mem_singleton.2 (by decide)
  colon := List.forall_mem_singleton.2 (by decide)

/-- **Compact JSON is in ASCII.** -/
theorem isAscii_writeChars {room : Nat} {v : Value} (h : Clear room v) :
    IsAscii (writeChars compact v) := compact_stays.writeChars h

end Json

end Guildhall
