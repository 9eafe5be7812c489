/-
Guildhall/Proofs/JsonValue.lean

Values that are written as JSON are read back.  What cannot be read back is
left out by `Clear`: numbers that are not whole or have too many digits, torn
texts, bytes, objects with two fields of one name, and nesting that is too
deep.

The reader is bounded by a depth; the number of characters that are written
for a value is always enough.  The proof is an induction on the value; after
each item or field the reader stands in front of a comma or the end, which
does not continue a number.

Main statements: `readWithin_writeChars` and `Style.Stays.writeChars`.
-/
import Guildhall.Proofs.JsonText
import Guildhall.Proofs.Numeral

namespace Guildhall

namespace Value

/-- A field of a new name is set at the end. -/
theorem put_of_not_mem {name : String} {v : Value} {fields : List (String × Value)}
    (h : name ∉ fields.map (·.1)) : put name v fields = fields ++ [(name, v)] := by
  induction fields with
  | nil => rfl
  | cons f fields ih =>
    obtain ⟨key, old⟩ := f
    rw [List.map_cons, List.mem_cons, not_or] at h
    rw [put, if_neg (Ne.symm h.1), ih h.2]
    rfl

end Value

namespace Json

open Text.Numeral

variable {style : Style} {rest : List Char}

/-! ### White space -/

theorem skipSpace_of_blank {blanks : List Char} (h : ∀ c ∈ blanks, isSpace c = true)
    (rest : List Char) : skipSpace (blanks ++ rest) = skipSpace rest := by
  induction blanks with
  | nil => rfl
  | cons c blanks ih =>
    rw [List.cons_append, skipSpace, List.dropWhile_cons, if_pos (h c List.mem_cons_self)]
    exact ih fun d hd => h d (List.mem_cons_of_mem c hd)

/-- A text that begins with a value: with neither white space nor the end of a list. -/
def Opens (cs : List Char) : Prop := ∃ c rest, cs = c :: rest ∧ isSpace c = false ∧ c ≠ ']'

theorem Opens.append {cs : List Char} (h : Opens cs) (rest : List Char) : Opens (cs ++ rest) := by
  obtain ⟨c, tail, rfl, hspace, hc⟩ := h
  exact ⟨c, tail ++ rest, rfl, hspace, hc⟩

theorem Opens.skipSpace {cs : List Char} (h : Opens cs) : skipSpace cs = cs := by
  obtain ⟨c, tail, rfl, hspace, -⟩ := h
  rw [Json.skipSpace, List.dropWhile_cons, if_neg (by rw [hspace]; exact Bool.false_ne_true)]

/-! ### Numbers -/

/-- A text that does not continue a number. -/
def Ends : List Char → Prop
  | [] => True
  | c :: _ => c.isDigit = false ∧ c ≠ '.' ∧ c ≠ 'e' ∧ c ≠ 'E'

theorem takeWhile_natDigits (n : Nat) (hrest : Ends rest) :
    (natDigits n ++ rest).takeWhile Char.isDigit = natDigits n := by
  rw [List.takeWhile_append_of_pos (isDigit_of_mem_natDigits n)]
  cases rest with
  | nil => rw [List.takeWhile_nil, List.append_nil]
  | cons c rest =>
    rw [List.takeWhile_cons, if_neg (by rw [hrest.1]; exact Bool.false_ne_true), List.append_nil]

theorem fraction?_of_ends (hrest : Ends rest) : fraction? rest = none := by
  unfold fraction?
  split
  · exact absurd rfl hrest.2.1
  · rfl

theorem exponent?_of_ends (hrest : Ends rest) : exponent? rest = none := by
  unfold exponent?
  split
  · rename_i mark after
    have hmark : ¬(mark == 'e' || mark == 'E') = true := by
      rw [Bool.or_eq_true, beq_iff_eq, beq_iff_eq]
      rintro (rfl | rfl)
      · exact hrest.2.2.1 rfl
      · exact hrest.2.2.2 rfl
    rw [if_neg hmark]
  · rfl

/-- The digits of a number are read as the number. -/
theorem readUnsigned_natDigits {start : List Char} {negative : Bool} {n : Nat}
    (hn : (natDigits n).length ≤ digitLimit) (hrest : Ends rest) :
    readUnsigned start negative (natDigits n ++ rest) =
      .ok (.int (if negative then -(n : Int) else n), rest) := by
  obtain ⟨c, ds, hcs⟩ := List.exists_cons_of_ne_nil (natDigits_ne_nil n)
  have hdigit : c.isDigit = true := isDigit_of_mem_natDigits n c (hcs ▸ List.mem_cons_self)
  have hwhole :
      (if (c == '0') = true then ['0'] else (natDigits n ++ rest).takeWhile Char.isDigit) =
        natDigits n := by
    -- A zero in front is taken alone, and it is the whole number then.
    by_cases hzero : (c == '0') = true
    · rw [beq_iff_eq] at hzero
      subst hzero
      obtain ⟨-, hds⟩ := natDigits_eq_cons_zero hcs
      rw [if_pos (by decide), hcs, hds]
    · rw [if_neg hzero, takeWhile_natDigits n hrest]
  unfold readUnsigned
  split
  · rename_i heq
    rw [hcs] at heq
    cases heq
  · rename_i first tail heq
    rw [hcs, List.cons_append] at heq
    obtain rfl := (List.cons.inj heq).1
    simp only [hdigit, hwhole, List.drop_left, fraction?_of_ends hrest, exponent?_of_ends hrest,
      List.append_nil, readDigits_natDigits, Bool.not_true, Bool.or_self, if_neg Bool.false_ne_true,
      if_neg (Nat.not_lt.2 hn)]

theorem after?_of_ne {p c : Char} (h : p ≠ c) (part cs : List Char) :
    Text.after? (p :: part) (c :: cs) = none := by
  rw [Text.after?, if_neg h]

/-- What begins with neither a letter nor a sign is no word. -/
theorem readScalar_of_isDigit {c : Char} {cs : List Char} (hc : c.isDigit = true) :
    readScalar (c :: cs) = readUnsigned (c :: cs) false (c :: cs) := by
  have hne : ∀ d : Char, d.isDigit = false → d ≠ c := by
    rintro d hd rfl
    exact Bool.false_ne_true (hd.symm.trans hc)
  have hnone : ∀ (d : Char) (part : List Char), d.isDigit = false →
      Text.after? (d :: part) (c :: cs) = none := fun d part hd => after?_of_ne (hne d hd) part cs
  unfold readScalar
  rw [show "null".toList = 'n' :: _ from rfl, hnone _ _ (by decide),
    show "true".toList = 't' :: _ from rfl, hnone _ _ (by decide),
    show "false".toList = 'f' :: _ from rfl, hnone _ _ (by decide),
    show "NaN".toList = 'N' :: _ from rfl, hnone _ _ (by decide),
    show "Infinity".toList = 'I' :: _ from rfl, hnone _ _ (by decide),
    show "-Infinity".toList = '-' :: _ from rfl, hnone _ _ (by decide)]
  dsimp only
  split
  · rename_i heq
    exact absurd (List.cons.inj heq).1.symm (hne '-' (by decide))
  · rfl

/-- A sign in front of a digit begins a number. -/
theorem readScalar_of_minus {c : Char} {cs : List Char} (hc : c.isDigit = true) :
    readScalar ('-' :: c :: cs) = readUnsigned ('-' :: c :: cs) true (c :: cs) := by
  have hinfinity : Text.after? "-Infinity".toList ('-' :: c :: cs) = none := by
    have hne : 'I' ≠ c := by
      rintro rfl
      cases hc
    rw [show "-Infinity".toList = '-' :: 'I' :: "nfinity".toList from rfl, Text.after?, if_pos rfl,
      after?_of_ne hne]
  unfold readScalar
  rw [hinfinity]
  rfl

/-- A whole number is read back. -/
theorem readScalar_intDigits {n : Int} (hn : (natDigits n.natAbs).length ≤ digitLimit)
    (hrest : Ends rest) : readScalar (intDigits n ++ rest) = .ok (.int n, rest) := by
  obtain ⟨c, ds, hcs⟩ := List.exists_cons_of_ne_nil (natDigits_ne_nil n.natAbs)
  have hdigit : c.isDigit = true := isDigit_of_mem_natDigits _ c (hcs ▸ List.mem_cons_self)
  unfold intDigits
  by_cases hneg : n < 0
  · rw [if_pos hneg, hcs, List.cons_append, List.cons_append, readScalar_of_minus hdigit,
      ← List.cons_append, ← hcs, readUnsigned_natDigits hn hrest, if_pos rfl]
    congr 3
    omega
  · rw [if_neg hneg, hcs, List.cons_append, readScalar_of_isDigit hdigit, ← List.cons_append,
      ← hcs, readUnsigned_natDigits hn hrest, if_neg Bool.false_ne_true]
    congr 3
    omega

theorem readScalar_null : readScalar ("null".toList ++ rest) = .ok (.null, rest) := rfl

theorem readScalar_true : readScalar ("true".toList ++ rest) = .ok (.bool true, rest) := rfl

theorem readScalar_false : readScalar ("false".toList ++ rest) = .ok (.bool false, rest) := rfl

/-! ### Values -/

/-- A style whose texts are read back, and whose commas and colons are followed by
white space only. -/
structure Style.Reads (style : Style) : Prop where
  text : ∀ (s : String) (opening rest : List Char),
    readText opening false [] (s.toList.flatMap style.escapeChar ++ '"' :: rest) =
      .ok (s, false, rest)
  comma : ∃ blanks, style.comma = ',' :: blanks ∧ ∀ c ∈ blanks, isSpace c = true
  colon : ∃ blanks, style.colon = ':' :: blanks ∧ ∀ c ∈ blanks, isSpace c = true

/-- Texts are read back from the compact style. -/
theorem compact_reads : compact.Reads where
  text s opening rest := by
    show readText opening false [] (s.toList.flatMap escapeAscii ++ '"' :: rest) = _
    rw [readText_escapeAscii, List.reverse_nil, List.nil_append, String.ofList_toList]
  comma := ⟨[], rfl, fun _ h => nomatch h⟩
  colon := ⟨[], rfl, fun _ h => nomatch h⟩

/-- The values that can be read back: of words, texts and whole numbers with not
too many digits, in lists and objects whose fields differ in name.  They nest no
deeper than the given room. -/
inductive Clear : Nat → Value → Prop
  | null {room : Nat} : Clear room .null
  | bool {room : Nat} (b : Bool) : Clear room (.bool b)
  | int {room : Nat} {n : Int} (hn : (natDigits n.natAbs).length ≤ digitLimit) :
      Clear room (.int n)
  | text {room : Nat} (s : String) : Clear room (.text s)
  | list {room : Nat} {items : List Value} (hitems : ∀ v ∈ items, Clear room v) :
      Clear (room + 1) (.list items)
  | object {room : Nat} {fields : List (String × Value)}
      (hnames : (fields.map (·.1)).Nodup)
      (hfields : ∀ f ∈ fields, Clear room f.2) : Clear (room + 1) (.object fields)

/-- What can be read back in some room can be in more. -/
theorem Clear.mono {room more : Nat} {v : Value} (h : Clear room v) (hle : room ≤ more) :
    Clear more v := by
  induction h generalizing more with
  | null => exact .null
  | bool b => exact .bool b
  | int hn => exact .int hn
  | text s => exact .text s
  | list _ ih =>
    obtain ⟨more, rfl⟩ := Nat.exists_eq_add_one_of_ne_zero (Nat.ne_zero_of_lt hle)
    exact .list fun v hv => ih v hv (Nat.le_of_succ_le_succ hle)
  | object hnames _ ih =>
    obtain ⟨more, rfl⟩ := Nat.exists_eq_add_one_of_ne_zero (Nat.ne_zero_of_lt hle)
    exact .object hnames fun f hf => ih f hf (Nat.le_of_succ_le_succ hle)

/-- A whole number begins with a digit or a minus sign. -/
theorem intDigits_eq_cons (n : Int) :
    ∃ c cs, intDigits n = c :: cs ∧ ∀ d : Char, d.isDigit = false → d ≠ '-' → c ≠ d := by
  unfold intDigits
  by_cases hneg : n < 0
  · rw [if_pos hneg]
    exact ⟨'-', _, rfl, fun d _ hminus => hminus.symm⟩
  · obtain ⟨c, ds, hcs⟩ := List.exists_cons_of_ne_nil (natDigits_ne_nil n.natAbs)
    have hdigit : c.isDigit = true := isDigit_of_mem_natDigits _ c (hcs ▸ List.mem_cons_self)
    rw [if_neg hneg]
    refine ⟨c, ds, hcs, ?_⟩
    rintro d hd - rfl
    exact Bool.false_ne_true (hd.symm.trans hdigit)

/-- What is written for a value begins like a value. -/
theorem opens_writeChars (style : Style) {room : Nat} {v : Value} (h : Clear room v) :
    Opens (writeChars style v) := by
  cases h with
  | null => exact ⟨'n', _, rfl, rfl, by decide⟩
  | bool b =>
    cases b with
    | false => exact ⟨'f', _, rfl, rfl, by decide⟩
    | true => exact ⟨'t', _, rfl, rfl, by decide⟩
  | @int _ n hn =>
    obtain ⟨c, cs, hcs, hc⟩ := intDigits_eq_cons n
    rw [writeChars, hcs]
    refine ⟨c, cs, rfl, ?_, hc _ rfl (by decide)⟩
    apply eq_false_of_ne_true
    intro hspace
    simp only [isSpace, Bool.or_eq_true, beq_iff_eq] at hspace
    rcases hspace with ((rfl | rfl) | rfl) | rfl
    · exact hc _ rfl (by decide) rfl
    · exact hc _ rfl (by decide) rfl
    · exact hc _ rfl (by decide) rfl
    · exact hc _ rfl (by decide) rfl
  | text s => exact ⟨'"', _, rfl, rfl, by decide⟩
  | list hitems =>
    rw [writeChars]
    exact ⟨'[', _, rfl, rfl, by decide⟩
  | object hnames hfields =>
    rw [writeChars]
    exact ⟨'\x7b', _, rfl, rfl, by decide⟩

/-- What begins with no quote and no bracket is read as a word or a number. -/
theorem readValue_of_scalar {depth room : Nat} {c : Char} {cs : List Char} (hquote : c ≠ '"')
    (hlist : c ≠ '[') (hobject : c ≠ '\x7b') :
    readValue (depth + 1) room (c :: cs) = readScalar (c :: cs) := by
  rw [readValue]
  · rintro rest heq
    exact hquote (List.cons.inj heq).1
  · rintro rest heq
    exact absurd (List.cons.inj heq).1 hlist
  · rintro rest heq
    exact absurd (List.cons.inj heq).1 hobject
  · rintro rest room heq
    exact absurd (List.cons.inj heq).1 hlist
  · rintro rest room heq
    exact absurd (List.cons.inj heq).1 hobject

/-- A value is read back from what is written for it, before anything that does not
continue it. -/
def ReadBack (style : Style) (room : Nat) (v : Value) : Prop :=
  ∀ depth rest, (writeChars style v).length ≤ depth → Ends rest →
    readValue depth room (writeChars style v ++ rest) = .ok (v, rest)

theorem readText_writeText (h : style.Reads) (s : String) (rest opening : List Char) :
    ∃ body, writeText style s ++ rest = '"' :: body ∧
      readText opening false [] body = .ok (s, false, rest) := by
  refine ⟨s.toList.flatMap style.escapeChar ++ '"' :: rest, ?_, h.text s opening rest⟩
  rw [writeText, List.cons_append, List.append_assoc, List.singleton_append]

/-! ### Items -/

section Items

variable {room : Nat} {items : List Value}

theorem opens_writeItems (hne : items ≠ []) (hopens : ∀ v ∈ items, Opens (writeChars style v)) :
    Opens (writeItems style items) := by
  cases items with
  | nil => exact absurd rfl hne
  | cons v rest =>
    rw [writeItems, List.append_assoc]
    exact (hopens v List.mem_cons_self).append _

/-- The items of a list are read back. -/
theorem readItems_writeItems (hstyle : style.Reads) (hne : items ≠ [])
    (hread : ∀ v ∈ items, ReadBack style room v)
    (hopens : ∀ v ∈ items, Opens (writeChars style v)) (before : List Value) {depth : Nat}
    (hdepth : (writeItems style items).length < depth) :
    readItems depth room before (writeItems style items ++ ']' :: rest) =
      .ok (.list (before.reverse ++ items), rest) := by
  obtain ⟨blanks, hcomma, hblanks⟩ := hstyle.comma
  induction items generalizing before depth with
  | nil => exact absurd rfl hne
  | cons v items ih =>
    obtain ⟨depth, rfl⟩ := Nat.exists_eq_add_one_of_ne_zero (Nat.ne_zero_of_lt hdepth)
    have hv := hread v List.mem_cons_self
    rw [writeItems, List.length_append, List.length_append] at hdepth
    rw [writeItems, readItems]
    -- The last item stands in front of the bracket, any other one in front of a comma;
    -- neither goes on with a number.
    cases items with
    | nil =>
      have hend : Ends (']' :: rest) := ⟨by decide, by decide, by decide, by decide⟩
      rw [List.append_assoc, List.append_assoc]
      show (readValue depth room (writeChars style v ++ ']' :: rest) >>= _) = _
      rw [hv depth _ (by omega) hend]
      show Except.ok (Value.list (v :: before).reverse, rest) = _
      rw [List.reverse_cons]
    | cons w items =>
      have hopen := opens_writeItems (List.cons_ne_nil w items) fun u hu =>
        hopens u (List.mem_cons_of_mem v hu)
      have hend : Ends (',' :: (blanks ++ (writeItems style (w :: items) ++ ']' :: rest))) :=
        ⟨by decide, by decide, by decide, by decide⟩
      have hlength : (if (w :: items).isEmpty then [] else style.comma).length =
          blanks.length + 1 := by
        rw [List.isEmpty_cons, if_neg Bool.false_ne_true, hcomma, List.length_cons]
      rw [List.isEmpty_cons, if_neg Bool.false_ne_true, hcomma, List.append_assoc,
        List.append_assoc, List.cons_append, hv depth _ (by omega) hend]
      show readItems depth room (v :: before)
        (skipSpace (blanks ++ (writeItems style (w :: items) ++ ']' :: rest))) = _
      rw [skipSpace_of_blank hblanks, (hopen.append _).skipSpace,
        ih (List.cons_ne_nil w items) (fun u hu => hread u (List.mem_cons_of_mem v hu))
          (fun u hu => hopens u (List.mem_cons_of_mem v hu)) _ (by omega),
        List.reverse_cons, List.append_assoc]
      rfl

end Items

/-! ### Fields -/

section Fields

variable {room : Nat} {fields : List (String × Value)}

theorem opens_writeFields (style : Style) (hne : fields ≠ []) :
    ∃ cs, writeFields style fields = '"' :: cs := by
  cases fields with
  | nil => exact absurd rfl hne
  | cons f fields =>
    obtain ⟨name, v⟩ := f
    rw [writeFields]
    exact ⟨_, rfl⟩

/-- The first field of an object, with a value that is read back, is read up to what
follows it. -/
theorem readFields_cons (hstyle : style.Reads) {name : String} {v : Value}
    (hread : ReadBack style room v) (hopen : Opens (writeChars style v))
    (before : List (String × Value)) {depth : Nat} (hdepth : (writeChars style v).length ≤ depth)
    {after : List Char} (hend : Ends after) :
    readFields (depth + 1) room before
        (writeText style name ++ style.colon ++ writeChars style v ++ after) =
      match skipSpace after with
      | '\x7d' :: rest =>
        .ok (.object (Value.put name v before), rest)
      | ',' :: rest =>
        readFields depth room (Value.put name v before) (skipSpace rest)
      | rest => throw (.stopped rest) := by
  obtain ⟨blanks, hcolon, hblanks⟩ := hstyle.colon
  obtain ⟨body, hbody, htext⟩ := readText_writeText hstyle name
    (':' :: (blanks ++ (writeChars style v ++ after)))
    (writeText style name ++ ':' :: (blanks ++ (writeChars style v ++ after)))
  rw [hcolon, List.append_assoc, List.append_assoc, List.cons_append, hbody, readFields]
  rw [hbody] at htext
  show (readText ('"' :: body) false [] body >>= _) = _
  rw [htext]
  show (readValue depth room (skipSpace (blanks ++ (writeChars style v ++ after))) >>= _) = _
  rw [skipSpace_of_blank hblanks, (hopen.append _).skipSpace, hread depth _ hdepth hend]
  rfl

/-- The fields of an object are read back, after those that have been read. -/
theorem readFields_writeFields (hstyle : style.Reads) (hne : fields ≠ [])
    (hread : ∀ f ∈ fields, ReadBack style room f.2)
    (hopens : ∀ f ∈ fields, Opens (writeChars style f.2)) (before : List (String × Value))
    (hnames : (before.map (·.1) ++ fields.map (·.1)).Nodup) {depth : Nat}
    (hdepth : (writeFields style fields).length < depth) :
    readFields depth room before (writeFields style fields ++ '\x7d' :: rest) =
      .ok (.object (before ++ fields), rest) := by
  obtain ⟨blanks, hcomma, hblanks⟩ := hstyle.comma
  induction fields generalizing before depth with
  | nil => exact absurd rfl hne
  | cons f fields ih =>
    obtain ⟨name, v⟩ := f
    obtain ⟨depth, rfl⟩ := Nat.exists_eq_add_one_of_ne_zero (Nat.ne_zero_of_lt hdepth)
    have hv : ReadBack style room v := hread _ List.mem_cons_self
    have hopen : Opens (writeChars style v) := hopens _ List.mem_cons_self
    -- Its name is new, so the field goes to the end.
    have hput : Value.put name v before =
        before ++ [(name, v)] := by
      apply Value.put_of_not_mem
      intro hmem
      exact (List.nodup_append.1 hnames).2.2 _ hmem _ List.mem_cons_self rfl
    rw [writeFields, List.length_append, List.length_append, List.length_append,
      List.length_append] at hdepth
    rw [writeFields]
    cases fields with
    | nil =>
      have hend : Ends ('\x7d' :: rest) := ⟨by decide, by decide, by decide, by decide⟩
      rw [List.isEmpty_nil, if_pos rfl, writeFields, List.append_nil, List.append_nil,
        readFields_cons hstyle hv hopen before (by omega) hend]
      show Except.ok (Value.object (Value.put name v before), rest) = _
      rw [hput]
    | cons g fields =>
      obtain ⟨cs, hcs⟩ := opens_writeFields style (List.cons_ne_nil g fields)
      have hend : Ends (',' :: (blanks ++ (writeFields style (g :: fields) ++ '\x7d' :: rest))) :=
        ⟨by decide, by decide, by decide, by decide⟩
      have hskip : skipSpace (writeFields style (g :: fields) ++ '\x7d' :: rest) =
          writeFields style (g :: fields) ++ '\x7d' :: rest := by
        rw [hcs]
        rfl
      have hnames' : ((before ++ [(name, v)]).map (·.1) ++
          (g :: fields).map (·.1)).Nodup := by
        rw [List.map_append, List.append_assoc]
        exact hnames
      rw [List.isEmpty_cons, if_neg Bool.false_ne_true] at hdepth ⊢
      rw [hcomma, List.length_cons] at hdepth
      rw [hcomma, List.append_assoc, List.append_assoc _ (',' :: blanks), List.cons_append,
        readFields_cons hstyle hv hopen before (by omega) hend]
      show readFields depth room (Value.put name v before)
        (skipSpace (blanks ++ (writeFields style (g :: fields) ++ '\x7d' :: rest))) = _
      rw [skipSpace_of_blank hblanks, hskip, hput,
        ih (List.cons_ne_nil g fields) (fun f hf => hread f (List.mem_cons_of_mem _ hf))
          (fun f hf => hopens f (List.mem_cons_of_mem _ hf)) _ hnames' (by omega),
        List.append_assoc]
      rfl

end Fields

/-! ### Reading what is written -/

/-- Something is written for every value, so the depth is at least one. -/
theorem ReadBack.of_succ {room : Nat} {v : Value} (hopen : Opens (writeChars style v))
    (h : ∀ depth rest, (writeChars style v).length ≤ depth + 1 → Ends rest →
      readValue (depth + 1) room (writeChars style v ++ rest) = .ok (v, rest)) :
    ReadBack style room v := by
  intro depth rest hdepth hend
  obtain ⟨c, cs, hcs, -⟩ := hopen
  have hlength : (writeChars style v).length = cs.length + 1 := congrArg List.length hcs
  obtain ⟨depth, rfl⟩ := Nat.exists_eq_add_one_of_ne_zero (n := depth) (by omega)
  exact h depth rest hdepth hend

/-- A list is read back if its items are. -/
theorem ReadBack.list {room : Nat} {items : List Value} (hstyle : style.Reads)
    (hread : ∀ v ∈ items, ReadBack style room v)
    (hopens : ∀ v ∈ items, Opens (writeChars style v)) :
    ReadBack style (room + 1) (.list items) := by
  refine .of_succ (by rw [writeChars]; exact ⟨'[', _, rfl, rfl, by decide⟩) ?_
  intro depth rest hdepth _
  rw [writeChars, List.length_cons, List.length_append, List.length_singleton] at hdepth
  rw [writeChars, List.cons_append, List.append_assoc, List.singleton_append, readValue]
  cases items with
  | nil => rfl
  | cons v items =>
    -- The list does not close at once, since an item opens.
    have hopen := opens_writeItems (List.cons_ne_nil v items) hopens
    have hitem : readItems depth room [] (writeItems style (v :: items) ++ ']' :: rest) =
        .ok (.list (v :: items), rest) :=
      readItems_writeItems hstyle (List.cons_ne_nil v items) hread hopens [] (by omega)
    obtain ⟨c, cs, hcs, -, hc⟩ := hopen.append (']' :: rest)
    rw [(hopen.append _).skipSpace]
    rw [hcs] at hitem ⊢
    split
    · rename_i heq
      exact absurd (List.cons.inj heq).1 hc
    · exact hitem

/-- An object is read back if what its fields hold is. -/
theorem ReadBack.object {room : Nat} {fields : List (String × Value)} (hstyle : style.Reads)
    (hnames : (fields.map (·.1)).Nodup) (hread : ∀ f ∈ fields, ReadBack style room f.2)
    (hopens : ∀ f ∈ fields, Opens (writeChars style f.2)) :
    ReadBack style (room + 1) (.object fields) := by
  refine .of_succ (by rw [writeChars]; exact ⟨'\x7b', _, rfl, rfl, by decide⟩) ?_
  intro depth rest hdepth _
  rw [writeChars, List.length_cons, List.length_append, List.length_singleton] at hdepth
  rw [writeChars, List.cons_append, List.append_assoc, List.singleton_append, readValue]
  cases fields with
  | nil => rfl
  | cons f fields =>
    have hfield : readFields depth room [] (writeFields style (f :: fields) ++ '\x7d' :: rest) =
        .ok (.object (f :: fields), rest) :=
      readFields_writeFields hstyle (List.cons_ne_nil f fields) hread hopens [] hnames (by omega)
    obtain ⟨cs, hcs⟩ := opens_writeFields style (List.cons_ne_nil f fields)
    rw [hcs, List.cons_append] at hfield ⊢
    exact hfield

/-- Every clear value is read back. -/
theorem readBack {room : Nat} {v : Value} (hstyle : style.Reads) (hv : Clear room v) :
    ReadBack style room v := by
  have hopen := opens_writeChars style hv
  induction hv with
  | null =>
    refine .of_succ hopen fun depth rest _ _ => ?_
    exact (readValue_of_scalar (by decide) (by decide) (by decide)).trans readScalar_null
  | bool b =>
    refine .of_succ hopen fun depth rest _ _ => ?_
    cases b with
    | false =>
      exact (readValue_of_scalar (by decide) (by decide) (by decide)).trans readScalar_false
    | true =>
      exact (readValue_of_scalar (by decide) (by decide) (by decide)).trans readScalar_true
  | @int _ n hn =>
    refine .of_succ hopen fun depth rest _ hend => ?_
    obtain ⟨c, cs, hcs, hc⟩ := intDigits_eq_cons n
    have hscalar := readScalar_intDigits hn hend
    rw [hcs, List.cons_append] at hscalar
    rw [writeChars, hcs, List.cons_append, readValue_of_scalar (hc _ rfl (by decide))
      (hc _ rfl (by decide)) (hc _ rfl (by decide)), hscalar]
  | text s =>
    refine .of_succ hopen fun depth rest _ _ => ?_
    obtain ⟨body, hbody, htext⟩ := readText_writeText hstyle s rest (writeText style s ++ rest)
    rw [writeChars, hbody, readValue]
    rw [hbody] at htext
    show (readText ('"' :: body) false [] body >>= _) = _
    rw [htext]
    rfl
  | list hitems ih =>
    have hopens := fun v hv => opens_writeChars style (hitems v hv)
    exact .list hstyle (fun v hv => ih v hv (hopens v hv)) hopens
  | object hnames hfields ih =>
    have hopens := fun f hf => opens_writeChars style (hfields f hf)
    exact .object hstyle hnames (fun f hf => ih f hf (hopens f hf)) hopens

/-- Reads a text that holds one value, which nests no deeper than the given room. -/
def readWithin (room : Nat) (cs : List Char) : Except Fault Value := do
  let (v, rest) ← readValue (cs.length + 1) room (skipSpace cs)
  match skipSpace rest with
  | [] => return v
  | rest => throw (.stopped rest)

/-- The reader is the one with its own limit of nesting. -/
theorem readChars_eq : readChars = readWithin nestingLimit := rfl

/-- What is read back before anything is read back on its own. -/
theorem ReadBack.readWithin {room : Nat} {v : Value} (h : ReadBack style room v)
    (hopen : Opens (writeChars style v)) : readWithin room (writeChars style v) = .ok v := by
  have hread := h ((writeChars style v).length + 1) [] (Nat.le_succ _) trivial
  rw [List.append_nil] at hread
  unfold Json.readWithin
  rw [hopen.skipSpace, hread]
  rfl

/-- **What is written for a clear value is read back**, if there is room enough. -/
theorem readWithin_writeChars {room : Nat} {v : Value} (hstyle : style.Reads)
    (hv : Clear room v) : readWithin room (writeChars style v) = .ok v :=
  (readBack hstyle hv).readWithin (opens_writeChars style hv)

theorem readChars_writeChars {v : Value} (hstyle : style.Reads)
    (hv : Clear nestingLimit v) : readChars (writeChars style v) = .ok v := by
  rw [readChars_eq]
  exact readWithin_writeChars hstyle hv

/-! ### The characters that are written -/

/-- All characters that a style writes have a property. -/
structure Style.Stays (style : Style) (P : Char → Prop) : Prop where
  print : ∀ c, Text.IsPrint c → P c
  text : ∀ c, ∀ d ∈ style.escapeChar c, P d
  comma : ∀ c ∈ style.comma, P c
  colon : ∀ c ∈ style.colon, P c

namespace Style.Stays

variable {P : Char → Prop}

theorem word (h : style.Stays P) {cs : List Char}
    (hcs : cs.all (fun c => decide (Text.IsPrint c)) = true) : ∀ c ∈ cs, P c :=
  fun c hc => h.print c (of_decide_eq_true (List.all_eq_true.1 hcs c hc))

theorem writeText (h : style.Stays P) (s : String) : ∀ c ∈ Json.writeText style s, P c := by
  have hquote : P '"' := h.print _ (by decide)
  refine List.forall_mem_cons.2 ⟨hquote, List.forall_mem_append.2 ⟨fun c hc => ?_, ?_⟩⟩
  · obtain ⟨d, -, hd⟩ := List.mem_flatMap.1 hc
    exact h.text d c hd
  · exact List.forall_mem_singleton.2 hquote

theorem intDigits (h : style.Stays P) (n : Int) : ∀ c ∈ Text.Numeral.intDigits n, P c := by
  have hdigits : ∀ c ∈ natDigits n.natAbs, P c := by
    intro c hc
    have hdigit := isDigit_of_mem_natDigits _ c hc
    simp only [Char.isDigit, Bool.and_eq_true, decide_eq_true_eq] at hdigit
    have hleast : 48 ≤ c.toNat := hdigit.1
    have hmost : c.toNat ≤ 57 := hdigit.2
    exact h.print c ⟨by omega, by omega⟩
  unfold Text.Numeral.intDigits
  by_cases hneg : n < 0
  · rw [if_pos hneg]
    exact List.forall_mem_cons.2 ⟨h.print _ (by decide), hdigits⟩
  · rw [if_neg hneg]
    exact hdigits

theorem ite_comma (h : style.Stays P) (last : Bool) :
    ∀ c ∈ (if last then [] else style.comma), P c := by
  cases last with
  | false => exact h.comma
  | true => exact List.forall_mem_nil _

theorem writeItems (h : style.Stays P) {items : List Value}
    (hitems : ∀ v ∈ items, ∀ c ∈ writeChars style v, P c) :
    ∀ c ∈ Json.writeItems style items, P c := by
  induction items with
  | nil => exact List.forall_mem_nil _
  | cons v items ih =>
    rw [Json.writeItems]
    exact List.forall_mem_append.2 ⟨List.forall_mem_append.2
      ⟨hitems v List.mem_cons_self, h.ite_comma _⟩,
      ih fun w hw => hitems w (List.mem_cons_of_mem v hw)⟩

theorem writeFields (h : style.Stays P) {fields : List (String × Value)}
    (hfields : ∀ f ∈ fields, ∀ c ∈ writeChars style f.2, P c) :
    ∀ c ∈ Json.writeFields style fields, P c := by
  induction fields with
  | nil => exact List.forall_mem_nil _
  | cons f fields ih =>
    obtain ⟨name, v⟩ := f
    have hname : ∀ c ∈ Json.writeText style name ++ style.colon, P c :=
      List.forall_mem_append.2 ⟨h.writeText name, h.colon⟩
    rw [Json.writeFields]
    exact List.forall_mem_append.2 ⟨List.forall_mem_append.2 ⟨List.forall_mem_append.2
      ⟨hname, hfields _ List.mem_cons_self⟩, h.ite_comma _⟩,
      ih fun g hg => hfields g (List.mem_cons_of_mem _ hg)⟩

/-- **What is written for a clear value** has the property. -/
theorem writeChars (h : style.Stays P) {room : Nat} {v : Value} (hv : Clear room v) :
    ∀ c ∈ Json.writeChars style v, P c := by
  induction hv with
  | null =>
    show ∀ c ∈ ['n', 'u', 'l', 'l'], P c
    exact h.word (by decide)
  | bool b =>
    cases b with
    | false =>
      show ∀ c ∈ ['f', 'a', 'l', 's', 'e'], P c
      exact h.word (by decide)
    | true =>
      show ∀ c ∈ ['t', 'r', 'u', 'e'], P c
      exact h.word (by decide)
  | int hn =>
    rw [Json.writeChars]
    exact h.intDigits _
  | text s =>
    rw [Json.writeChars]
    exact h.writeText s
  | list _ ih =>
    rw [Json.writeChars]
    exact List.forall_mem_cons.2 ⟨h.print _ (by decide), List.forall_mem_append.2
      ⟨h.writeItems ih, h.word (by decide)⟩⟩
  | object _ _ ih =>
    rw [Json.writeChars]
    exact List.forall_mem_cons.2 ⟨h.print _ (by decide), List.forall_mem_append.2
      ⟨h.writeFields ih, h.word (by decide)⟩⟩

end Style.Stays

end Json

end Guildhall
