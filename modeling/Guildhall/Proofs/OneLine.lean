/-
Guildhall/Proofs/OneLine.lean

JSON in the spaced style is one line: control characters are escaped, so that none stands
in what is written, and all other characters stand for themselves, so that every text is
read back.

Main statements: `spaced_reads` and `spaced_stays`.
-/
import Guildhall.Proofs.JsonValue

namespace Guildhall.Json

variable {opening read rest : List Char} {torn : Bool}

/-- A character is read back from the way it is written in a line, whatever follows. -/
theorem readText_escapeControl_char (c : Char) (hrest : rest ≠ []) :
    readText opening torn read (escapeControl c ++ rest) =
      readText opening torn (c :: read) rest := by
  unfold escapeControl
  cases hshort : shortEscape c with
  | some cs =>
    obtain ⟨d, rfl, hd, hu⟩ := shortEscape_eq_some hshort
    exact readText_short hd hu
  | none =>
    obtain ⟨hquote, hslash⟩ := ne_of_shortEscape_eq_none hshort
    dsimp only
    by_cases hc : c.toNat < 0x20
    · rw [if_pos hc]
      exact readText_unit (Nat.lt_trans hc (by decide)) hrest
    · rw [if_neg hc]
      exact readText_plain hquote hslash (Nat.not_lt.1 hc)

/-- Texts are read back from the spaced style. -/
theorem spaced_reads : spaced.Reads where
  text s opening rest := by
    show readText opening false [] (s.toList.flatMap escapeControl ++ '"' :: rest) = _
    rw [readText_flatMap fun c _ _ hrest => readText_escapeControl_char c hrest,
      List.reverse_nil, List.nil_append, String.ofList_toList]
  comma := ⟨[' '], rfl, List.forall_mem_singleton.2 rfl⟩
  colon := ⟨[' '], rfl, List.forall_mem_singleton.2 rfl⟩

/-- No control character is written for any character. -/
theorem le_toNat_of_mem_escapeControl (c : Char) : ∀ d ∈ escapeControl c, 0x20 ≤ d.toNat := by
  unfold escapeControl
  cases hshort : shortEscape c with
  | some cs =>
    obtain ⟨d, rfl, hd, -⟩ := shortEscape_eq_some hshort
    exact List.forall_mem_cons.2
      ⟨by decide, List.forall_mem_singleton.2 (isPrint_of_shortEscape? hd).1⟩
  | none =>
    dsimp only
    by_cases hc : c.toNat < 0x20
    · rw [if_pos hc]
      exact fun d hd => (isPrint_unitEscape _ d hd).1
    · rw [if_neg hc]
      exact List.forall_mem_singleton.2 (Nat.not_lt.1 hc)

/-- **The spaced style writes no control characters.** -/
theorem spaced_stays : spaced.Stays fun c => 0x20 ≤ c.toNat where
  print _ hc := hc.1
  text := le_toNat_of_mem_escapeControl
  comma := List.forall_mem_cons.2 ⟨by decide, List.forall_mem_singleton.2 (by decide)⟩
  colon := List.forall_mem_cons.2 ⟨by decide, List.forall_mem_singleton.2 (by decide)⟩

end Guildhall.Json
