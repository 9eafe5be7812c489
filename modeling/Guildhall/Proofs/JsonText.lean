/-
Guildhall/Proofs/JsonText.lean

Texts in JSON that are written in ASCII are read back, character by character.
No character is a surrogate, so what is written never reads as half a pair.

Main statement: `readText_escapeAscii`.
-/
import Mathlib.Algebra.Group.Nat.Defs
import Guildhall.Json.Reader
import Guildhall.Json.Writer

namespace Guildhall

namespace Text

/-- The characters of ASCII that can be printed. -/
def IsPrint (c : Char) : Prop := 0x20 ≤ c.toNat ∧ c.toNat ≤ 0x7E

instance (c : Char) : Decidable (IsPrint c) := inferInstanceAs (Decidable (_ ∧ _))

/-! ### Hexadecimal digits -/

theorem isPrint_hexDigit : ∀ n, n < 16 → IsPrint (hexDigit n) := by decide

theorem isPrint_hexDigits (width n : Nat) : ∀ c ∈ hexDigits width n, IsPrint c := by
  induction width generalizing n with
  | zero => exact List.forall_mem_nil _
  | succ width ih =>
    exact List.forall_mem_append.2 ⟨ih _,
      List.forall_mem_singleton.2 (isPrint_hexDigit _ (Nat.mod_lt n (by decide)))⟩

theorem hexValue?_hexDigit : ∀ n, n < 16 → hexValue? (hexDigit n) = some n := by decide

/-- The digits of a number stand for its remainder. -/
theorem hexNumber?_hexDigits (width n : Nat) :
    hexNumber? (hexDigits width n) = some (n % 16 ^ width) := by
  unfold hexNumber?
  induction width generalizing n with
  | zero =>
    rw [Nat.pow_zero, Nat.mod_one]
    rfl
  | succ width ih =>
    -- The digits in front are those of the quotient, the last one is the remainder.
    rw [hexDigits, List.foldlM_append, ih, Option.bind_eq_bind, Option.bind_some,
      List.foldlM_cons, hexValue?_hexDigit _ (Nat.mod_lt n (by decide))]
    show some (16 * (n / 16 % 16 ^ width) + n % 16) = _
    rw [Nat.pow_succ', Nat.mod_mul, Nat.add_comm]

/-- Four digits are enough for a unit of sixteen bits. -/
theorem hexNumber?_unit {n : Nat} (h : n < 0x10000) : hexNumber? (hexDigits 4 n) = some n := by
  have hpower : n < 16 ^ 4 := h
  rw [hexNumber?_hexDigits, Nat.mod_eq_of_lt hpower]

/-! ### Halves of pairs -/

theorem isSurrogate_iff {n : Nat} : isSurrogate n = true ↔ 0xD800 ≤ n ∧ n ≤ 0xDFFF := by
  simp [isSurrogate]

theorem isHighSurrogate_iff {n : Nat} : isHighSurrogate n = true ↔ 0xD800 ≤ n ∧ n ≤ 0xDBFF := by
  simp [isHighSurrogate]

theorem isLowSurrogate_iff {n : Nat} : isLowSurrogate n = true ↔ 0xDC00 ≤ n ∧ n ≤ 0xDFFF := by
  simp [isLowSurrogate]

/-- The numbers of characters. -/
theorem toNat_range (c : Char) : c.toNat < 0xD800 ∨ (0xDFFF < c.toNat ∧ c.toNat < 0x110000) :=
  c.valid

theorem toNat_lt (c : Char) : c.toNat < 0x110000 := by
  have h := toNat_range c
  omega

/-- No character is a surrogate. -/
theorem isSurrogate_toNat (c : Char) : isSurrogate c.toNat = false := by
  apply eq_false_of_ne_true
  rw [isSurrogate_iff]
  have h := toNat_range c
  omega

/-- A character is read from its number. -/
theorem ofCodePoint_toNat (c : Char) : ofCodePoint c.toNat = c := by
  rw [ofCodePoint, isSurrogate_toNat, if_neg Bool.false_ne_true, Char.ofNat_toNat]

theorem isHighSurrogate_toNat (c : Char) : isHighSurrogate c.toNat = false := by
  apply eq_false_of_ne_true
  rw [isHighSurrogate_iff]
  have h := toNat_range c
  omega

/-- The character of a pair, from its number. -/
theorem pairChar_of_toNat {c : Char} (h : 0x10000 ≤ c.toNat) :
    pairChar (0xD800 + (c.toNat - 0x10000) / 0x400) (0xDC00 + (c.toNat - 0x10000) % 0x400) = c := by
  have hsum : 0x10000 + (0xD800 + (c.toNat - 0x10000) / 0x400 - 0xD800) * 0x400 +
      (0xDC00 + (c.toNat - 0x10000) % 0x400 - 0xDC00) = c.toNat := by
    omega
  unfold pairChar
  rw [hsum, Char.ofNat_toNat]

end Text

namespace Json

variable {opening read rest : List Char} {torn : Bool}

/-! ### Reading an escape -/

theorem readText_plain {c : Char} (hquote : c ≠ '"') (hslash : c ≠ '\\') (hc : 0x20 ≤ c.toNat) :
    readText opening torn read (c :: rest) = readText opening torn (c :: read) rest := by
  rw [readText, if_neg hquote, if_neg hslash, if_neg (Nat.not_lt.2 hc)]

theorem readText_close :
    readText opening torn read ('"' :: rest) = .ok (String.ofList read.reverse, torn, rest) := by
  rw [readText, if_pos rfl]

/-- The escape of a character leaves a text as whole as it was. -/
theorem readText_escape {cs : List Char} {c : Char} {length : Nat}
    (h : escape opening cs = .ok ⟨c, false, length⟩) :
    readText opening torn read ('\\' :: cs) =
      readText opening torn (c :: read) (cs.drop length) := by
  rw [readText, if_neg (by decide), if_pos rfl, h]
  dsimp only
  rw [Bool.or_false]

/-- Reading the escape of a unit, as long as something follows it. -/
theorem escape_hexDigits {n : Nat} (hn : n < 0x10000) (hrest : rest ≠ []) :
    escape opening ('u' :: (Text.hexDigits 4 n ++ rest)) =
      if Text.isHighSurrogate n then
        (secondUnit? rest).map fun second =>
          second.elim (.ofUnit n) fun low => ⟨Text.pairChar n low, false, 11⟩
      else .ok (.ofUnit n) := by
  -- The text does not end behind the digits, so the escape is whole.
  have hlength : ¬(Text.hexDigits 4 n ++ rest).length ≤ 4 := by
    have := List.length_pos_iff.2 hrest
    rw [List.length_append, Text.length_hexDigits]
    omega
  rw [escape, if_neg hlength, List.take_left' (Text.length_hexDigits 4 n), Text.hexNumber?_unit hn,
    List.drop_left' (Text.length_hexDigits 4 n)]
  by_cases hhigh : Text.isHighSurrogate n = true
  · -- A first half looks for a second one.
    dsimp only
    rw [if_pos hhigh, if_pos hhigh]
    cases secondUnit? rest with
    | error fault => rfl
    | ok second => cases second <;> rfl
  · simp only [hhigh]
    rfl

/-- A character of one unit is read from its escape. -/
theorem readText_unit {c : Char} (hc : c.toNat < 0x10000) (hrest : rest ≠ []) :
    readText opening torn read (unitEscape c.toNat ++ rest) =
      readText opening torn (c :: read) rest := by
  have h : escape opening ('u' :: (Text.hexDigits 4 c.toNat ++ rest)) = .ok ⟨c, false, 5⟩ := by
    rw [escape_hexDigits hc hrest, Text.isHighSurrogate_toNat, if_neg Bool.false_ne_true,
      Escape.ofUnit, Text.ofCodePoint_toNat, Text.isSurrogate_toNat]
  refine (readText_escape h).trans ?_
  rw [List.drop_succ_cons, List.drop_left' (Text.length_hexDigits 4 c.toNat)]

/-- The escape of a second half, with nothing for it to be the half of, tears the text. -/
theorem readText_half {n : Nat} (hn : Text.isLowSurrogate n = true) (hrest : rest ≠ []) :
    readText opening torn read (unitEscape n ++ rest) =
      readText opening true (Text.ofCodePoint n :: read) rest := by
  obtain ⟨hfrom, hto⟩ := Text.isLowSurrogate_iff.1 hn
  have hhigh : ¬Text.isHighSurrogate n = true := fun h => by
    have := Text.isHighSurrogate_iff.1 h
    omega
  have h : escape opening ('u' :: (Text.hexDigits 4 n ++ rest)) =
      .ok ⟨Text.ofCodePoint n, true, 5⟩ := by
    rw [escape_hexDigits (by omega) hrest, if_neg hhigh, Escape.ofUnit,
      Text.isSurrogate_iff.2 (by omega)]
  rw [unitEscape, List.cons_append, List.cons_append, readText, if_neg (by decide), if_pos rfl, h]
  dsimp only
  rw [Bool.or_true, List.drop_succ_cons, List.drop_left' (Text.length_hexDigits 4 n)]

/-- The second unit that a text goes on with, if the text goes on with the escape of
a unit. -/
theorem secondUnit?_unitEscape {n : Nat} (hn : n < 0x10000) (hrest : rest ≠ []) :
    secondUnit? (unitEscape n ++ rest) =
      .ok (if Text.isLowSurrogate n then some n else none) := by
  have hlength : ¬(Text.hexDigits 4 n ++ rest).length ≤ 4 := by
    have := List.length_pos_iff.2 hrest
    rw [List.length_append, Text.length_hexDigits]
    omega
  show secondUnit? ('\\' :: 'u' :: (Text.hexDigits 4 n ++ rest)) = _
  rw [secondUnit?, if_neg hlength, List.take_left' (Text.length_hexDigits 4 n),
    Text.hexNumber?_unit hn]

/-- Two halves that follow one another stand for their character. -/
theorem readText_pair {high low : Nat} (hhigh : Text.isHighSurrogate high = true)
    (hlow : Text.isLowSurrogate low = true) (hrest : rest ≠ []) :
    readText opening torn read (unitEscape high ++ (unitEscape low ++ rest)) =
      readText opening torn (Text.pairChar high low :: read) rest := by
  have hn : high < 0x10000 := by
    have := Text.isHighSurrogate_iff.1 hhigh
    omega
  have hm : low < 0x10000 := by
    have := Text.isLowSurrogate_iff.1 hlow
    omega
  have h : escape opening ('u' :: (Text.hexDigits 4 high ++ (unitEscape low ++ rest))) =
      .ok ⟨Text.pairChar high low, false, 11⟩ := by
    have hnext : unitEscape low ++ rest ≠ [] := List.cons_ne_nil _ _
    rw [escape_hexDigits hn hnext, hhigh, secondUnit?_unitEscape hm hrest, hlow]
    rfl
  have hsplit : 'u' :: (Text.hexDigits 4 high ++ (unitEscape low ++ rest)) =
      ('u' :: (Text.hexDigits 4 high ++ unitEscape low)) ++ rest := by
    rw [List.cons_append, List.append_assoc]
  -- The letter and four digits, and then the six characters of the second escape.
  have hlength : ('u' :: (Text.hexDigits 4 high ++ unitEscape low)).length = 11 := by
    show (Text.hexDigits 4 high ++ '\\' :: 'u' :: Text.hexDigits 4 low).length + 1 = 11
    rw [List.length_append, List.length_cons, List.length_cons, Text.length_hexDigits,
      Text.length_hexDigits]
  refine (readText_escape h).trans ?_
  rw [hsplit, List.drop_left' hlength]

/-! ### Reading what is written -/

/-- The escape of a character: a short one, the character itself, the escape of
its unit, or those of its two halves. -/
inductive AsciiEscape (c : Char) : List Char → Prop
  | short {d : Char} (hd : shortEscape? d = some c) (hu : d ≠ 'u') : AsciiEscape c ['\\', d]
  | plain (hquote : c ≠ '"') (hslash : c ≠ '\\') (hc : Text.IsPrint c) : AsciiEscape c [c]
  | unit (hc : c.toNat < 0x10000) : AsciiEscape c (unitEscape c.toNat)
  | pair {high low : Nat} (hhigh : Text.isHighSurrogate high = true)
      (hlow : Text.isLowSurrogate low = true) (hc : Text.pairChar high low = c) :
      AsciiEscape c (unitEscape high ++ unitEscape low)

theorem shortEscape_eq_some {c : Char} {cs : List Char} (h : shortEscape c = some cs) :
    ∃ d, cs = ['\\', d] ∧ shortEscape? d = some c ∧ d ≠ 'u' := by
  unfold shortEscape at h
  simp only [beq_iff_eq] at h
  -- The table is small: each short escape is looked up in the other direction.
  repeat' split at h
  all_goals
    first
      | (subst c
         cases h
         exact ⟨_, rfl, rfl, by decide⟩)
      | cases h

theorem ne_of_shortEscape_eq_none {c : Char} (h : shortEscape c = none) : c ≠ '"' ∧ c ≠ '\\' := by
  constructor
  · rintro rfl
    cases h
  · rintro rfl
    cases h

/-- What stands behind the backslash of a short escape can be printed. -/
theorem isPrint_of_shortEscape? {c d : Char} (h : shortEscape? d = some c) : Text.IsPrint d := by
  unfold shortEscape? at h
  split at h
  all_goals
    first
      | decide
      | cases h

theorem isPrint_unitEscape (n : Nat) : ∀ c ∈ unitEscape n, Text.IsPrint c :=
  List.forall_mem_cons.2
    ⟨by decide, List.forall_mem_cons.2 ⟨by decide, Text.isPrint_hexDigits 4 n⟩⟩

theorem asciiEscape (c : Char) : AsciiEscape c (escapeAscii c) := by
  unfold escapeAscii
  cases hshort : shortEscape c with
  | some cs =>
    obtain ⟨d, rfl, hd, hu⟩ := shortEscape_eq_some hshort
    -- It has a short escape.
    exact .short hd hu
  | none =>
    obtain ⟨hquote, hslash⟩ := ne_of_shortEscape_eq_none hshort
    -- Otherwise it stands for itself if it can be printed, takes one unit below
    -- 0x10000, and two halves above.
    dsimp only
    split
    · rename_i hprint
      simp only [Bool.and_eq_true, decide_eq_true_eq] at hprint
      exact .plain hquote hslash hprint
    · split
      · rename_i hn
        exact .unit hn
      · rename_i hn
        have hbound := Text.toNat_lt c
        exact .pair (Text.isHighSurrogate_iff.2 (by omega)) (Text.isLowSurrogate_iff.2 (by omega))
          (Text.pairChar_of_toNat (Nat.not_lt.1 hn))

/-- A character is read from its short escape. -/
theorem readText_short {c d : Char} (hd : shortEscape? d = some c) (hu : d ≠ 'u') :
    readText opening torn read ('\\' :: d :: rest) = readText opening torn (c :: read) rest := by
  have h : escape opening (d :: rest) = .ok ⟨c, false, 1⟩ := by
    unfold escape
    split
    · rename_i heq
      cases heq
    · rename_i heq
      cases heq
      exact absurd rfl hu
    · rename_i heq
      cases heq
      rw [hd]
  exact readText_escape h

/-- A character is read back from its escape, whatever follows. -/
theorem readText_escapeAscii_char (c : Char) (hrest : rest ≠ []) :
    readText opening torn read (escapeAscii c ++ rest) =
      readText opening torn (c :: read) rest := by
  have h := asciiEscape c
  generalize escapeAscii c = cs at h ⊢
  cases h with
  | short hd hu => exact readText_short hd hu
  | plain hquote hslash hc => exact readText_plain hquote hslash hc.1
  | unit hc => exact readText_unit hc hrest
  | pair hh hl hc => rw [List.append_assoc, readText_pair hh hl hrest, hc]

/-- A text is read back from the escapes of its characters if each character is. -/
theorem readText_flatMap {escapeChar : Char → List Char}
    (h : ∀ (c : Char) (read rest : List Char), rest ≠ [] →
      readText opening torn read (escapeChar c ++ rest) = readText opening torn (c :: read) rest)
    (cs : List Char) :
    readText opening torn read (cs.flatMap escapeChar ++ '"' :: rest) =
      .ok (String.ofList (read.reverse ++ cs), torn, rest) := by
  induction cs generalizing read with
  | nil =>
    rw [List.append_nil]
    exact readText_close
  | cons c cs ih =>
    have hrest : cs.flatMap escapeChar ++ '"' :: rest ≠ [] :=
      List.append_ne_nil_of_right_ne_nil _ (List.cons_ne_nil _ _)
    rw [List.flatMap_cons, List.append_assoc, h c read _ hrest, ih,
      List.reverse_cons, List.append_assoc, List.singleton_append]

/-- **A text that is written in ASCII is read back**, and it is not torn. -/
theorem readText_escapeAscii (cs : List Char) :
    readText opening torn read (cs.flatMap escapeAscii ++ '"' :: rest) =
      .ok (String.ofList (read.reverse ++ cs), torn, rest) :=
  readText_flatMap (fun c _ _ hrest => readText_escapeAscii_char c hrest) cs

end Json

end Guildhall
