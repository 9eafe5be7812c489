/-
Guildhall/Proofs/Trimming.lean

Texts without white space at their ends.  Trimming leaves such a text alone, and
gives one from any other text.
-/
import Guildhall.Text.Blank
import Mathlib.Data.List.Basic

namespace Guildhall.Text

variable {p : Char → Bool} {cs : List Char} {s : String}

/-! ### Trimming by a class -/

/-- Nothing is dropped from a text that does not begin with the class. -/
theorem dropWhile_of_head? (h : ∀ c ∈ cs.head?, p c = false) : cs.dropWhile p = cs := by
  cases cs with
  | nil => rfl
  | cons c cs => rw [List.dropWhile_cons, if_neg (by rw [h c rfl]; exact Bool.false_ne_true)]

/-- Nothing is trimmed from a text none of whose ends is of the class. -/
theorem trimBy_of_ends (hhead : ∀ c ∈ cs.head?, p c = false)
    (hlast : ∀ c ∈ cs.getLast?, p c = false) : trimBy p cs = cs := by
  have hback : cs.reverse.dropWhile p = cs.reverse :=
    dropWhile_of_head? (by rwa [List.head?_reverse])
  unfold trimBy
  rw [dropWhile_of_head? hhead, hback, List.reverse_reverse]

/-- What is left of a text is what stands between two runs of the class, if it neither
begins nor ends with it. -/
theorem trimBy_append {before after : List Char} (hbefore : ∀ c ∈ before, p c = true)
    (hafter : ∀ c ∈ after, p c = true) (hne : cs ≠ []) (hhead : ∀ c ∈ cs.head?, p c = false)
    (hlast : ∀ c ∈ cs.getLast?, p c = false) : trimBy p (before ++ cs ++ after) = cs := by
  have hfront : (before ++ cs ++ after).dropWhile p = cs ++ after := by
    rw [List.append_assoc, List.dropWhile_append_of_pos hbefore]
    refine dropWhile_of_head? fun c hc => hhead c ?_
    rwa [List.head?_append_of_ne_nil _ hne] at hc
  have hback : (after.reverse ++ cs.reverse).dropWhile p = cs.reverse := by
    rw [List.dropWhile_append_of_pos fun c hc => hafter c (List.mem_reverse.1 hc)]
    refine dropWhile_of_head? fun c hc => hlast c ?_
    rwa [List.head?_reverse] at hc
  unfold trimBy
  rw [hfront, List.reverse_append, hback, List.reverse_reverse]

/-- What is left of a text at the front begins with no character of the class. -/
theorem head?_dropWhile (cs : List Char) : ∀ c ∈ (cs.dropWhile p).head?, p c = false := by
  intro c hc
  have h := List.head?_dropWhile_not p cs
  rw [Option.mem_def.1 hc] at h
  exact Bool.eq_false_iff.2 (by simpa using h)

/-- A trimmed text begins with no character of the class. -/
theorem head?_trimBy (cs : List Char) : ∀ c ∈ (trimBy p cs).head?, p c = false := by
  intro c hc
  -- What is taken away at the end leaves the first character where it is.
  have hfront : trimBy p cs <+: cs.dropWhile p := by
    unfold trimBy
    rw [← List.reverse_suffix, List.reverse_reverse]
    exact List.dropWhile_suffix p
  obtain ⟨after, hafter⟩ := hfront
  refine head?_dropWhile cs c ?_
  rw [← hafter, List.head?_append, Option.mem_def.1 hc]
  rfl

/-- A trimmed text ends with no character of the class. -/
theorem getLast?_trimBy (cs : List Char) : ∀ c ∈ (trimBy p cs).getLast?, p c = false := by
  unfold trimBy
  rw [List.getLast?_reverse]
  exact head?_dropWhile _

/-! ### Texts without white space at their ends -/

/-- A text that neither begins nor ends with white space. -/
structure IsTrimmed (s : String) : Prop where
  head : ∀ c ∈ s.toList.head?, isBlank c = false
  last : ∀ c ∈ s.toList.getLast?, isBlank c = false

theorem isTrimmed_strip (s : String) : IsTrimmed (strip s) where
  head := by
    rw [toList_strip]
    exact head?_trimBy _
  last := by
    rw [toList_strip]
    exact getLast?_trimBy _

/-- Trimming leaves exactly the trimmed texts alone. -/
theorem strip_eq_self_iff : strip s = s ↔ IsTrimmed s := by
  constructor
  · intro h
    rw [← h]
    exact isTrimmed_strip s
  · intro h
    unfold strip
    rw [trimBy_of_ends h.head h.last, String.ofList_toList]

end Guildhall.Text
