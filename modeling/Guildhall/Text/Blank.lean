/-
Guildhall/Text/Blank.lean

White space in text.  `isBlank` is the set of characters that count as
white space wherever input is trimmed or split; `strip` removes them at
both ends.  A number may be surrounded by the same characters, the four
separators U+001C to U+001F excepted (`isNumeralBlank`).
-/

namespace Guildhall.Text

/-- The characters that count as white space. -/
def isBlank (c : Char) : Bool :=
  let n := c.toNat
  (0x9 ≤ n && n ≤ 0xD) || (0x1C ≤ n && n ≤ 0x20) || n == 0x85 || n == 0xA0 || n == 0x1680 ||
    (0x2000 ≤ n && n ≤ 0x200A) || n == 0x2028 || n == 0x2029 || n == 0x202F || n == 0x205F ||
    n == 0x3000

/-- The white space that may surround a number. -/
def isNumeralBlank (c : Char) : Bool :=
  isBlank c && !(0x1C ≤ c.toNat && c.toNat ≤ 0x1F)

/-! ### Trimming -/

/-- Without the leading and the trailing characters of a class. -/
def trimBy (p : Char → Bool) (cs : List Char) : List Char :=
  ((cs.dropWhile p).reverse.dropWhile p).reverse

/-- A text without its surrounding white space. -/
def strip (s : String) : String := String.ofList (trimBy isBlank s.toList)

@[simp] theorem toList_strip (s : String) : (strip s).toList = trimBy isBlank s.toList := by
  simp [strip]

/-- Trimming takes a prefix and a suffix of the class away, and no more. -/
theorem trimBy_spec (p : Char → Bool) (cs : List Char) :
    ∃ before after, cs = before ++ trimBy p cs ++ after ∧
      (∀ c ∈ before, p c = true) ∧ ∀ c ∈ after, p c = true := by
  refine ⟨cs.takeWhile p, ((cs.dropWhile p).reverse.takeWhile p).reverse, ?_, ?_, ?_⟩
  · have h : trimBy p cs ++ ((cs.dropWhile p).reverse.takeWhile p).reverse = cs.dropWhile p := by
      rw [trimBy, ← List.reverse_append, List.takeWhile_append_dropWhile, List.reverse_reverse]
    rw [List.append_assoc, h, List.takeWhile_append_dropWhile]
  · intro c hc
    exact List.all_eq_true.1 (List.all_takeWhile) c hc
  · intro c hc
    exact List.all_eq_true.1 (List.all_takeWhile) c (List.mem_reverse.1 hc)

end Guildhall.Text
