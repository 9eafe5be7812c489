/-
Guildhall/Proofs/Input.lean

What a check lets pass, and in which form.  A number that passes is within the
bounds of its check.  A text that passes is a label (`IsLabel`): it is not empty,
has no white space around it and is no longer than its check allows.  An email
address that passes is besides of the shape `local@domain.tld` (`IsAddress`).
-/
import Guildhall.Input
import Guildhall.Proofs.Statement
import Guildhall.Proofs.Trimming

namespace Guildhall

/-- A value is a text, whole or torn. -/
def Value.Spells (v : Value) (s : String) : Prop := v = .text s ∨ v = .torn s

namespace Input

variable {α : Type} {v given : Value} {field s : String}

theorem reject_eq_ok {complaint : Complaint} {a : α} :
    reject given field complaint = .ok a ↔ False := by
  unfold reject
  split
  · exact iff_of_false nofun id
  · exact iff_of_false nofun id

/-- What comes after a look that may complain is done only if it does not. -/
theorem guard_eq_ok {c : Prop} [Decidable c] {complaint : Complaint}
    {x : Unit → Except Stop α} {a : α} :
    (if c then reject given field complaint >>= x else x ()) = .ok a ↔ ¬c ∧ x () = .ok a := by
  by_cases hc : c
  · rw [if_pos hc, Except.bind_eq_ok]
    exact iff_of_false (fun ⟨_, h, _⟩ => reject_eq_ok.1 h) fun h => h.1 hc
  · rw [if_neg hc]
    exact (and_iff_right hc).symm

theorem pure_eq_ok {a b : α} : (pure a : Except Stop α) = .ok b ↔ a = b := by
  constructor
  · rintro ⟨⟩
    rfl
  · rintro rfl
    rfl

/-! ### Whole numbers -/

/-- A number passes if it is one and keeps the bounds that there are. -/
theorem integer_eq_ok {least most : Option Int} {n : Int} :
    integer v field least most = .ok n ↔
      toInteger v field = .ok n ∧ (∀ low ∈ least, low ≤ n) ∧ ∀ high ∈ most, n ≤ high := by
  unfold integer
  rw [Except.bind_eq_ok]
  calc
    _ ↔ ∃ k, toInteger v field = .ok k ∧
        k = n ∧ (∀ low ∈ least, low ≤ k) ∧ ∀ high ∈ most, k ≤ high := by
      -- What is left after the number has been read are the looks at the bounds.
      refine exists_congr fun k => and_congr_right fun _ => ?_
      cases least <;> cases most <;>
        simp only [guard_eq_ok, pure_eq_ok, Option.mem_def, Option.some.injEq, forall_eq',
          reduceCtorEq, false_implies, implies_true, and_true, true_and, Int.not_lt] <;> tauto
    _ ↔ _ := by
      constructor
      · rintro ⟨_, hk, rfl, hlow, hhigh⟩
        exact ⟨hk, hlow, hhigh⟩
      · rintro ⟨hn, hlow, hhigh⟩
        exact ⟨n, hn, rfl, hlow, hhigh⟩

/-- An amount is not negative and at most 2^62. -/
theorem amount_bounds {n : Int} (h : amount v field = .ok n) :
    0 ≤ n ∧ n ≤ 4611686018427387904 := by
  obtain ⟨-, hlow, hhigh⟩ := integer_eq_ok.1 h
  exact ⟨hlow 0 rfl, hhigh greatestAmount rfl⟩

/-- A sum passes if a column can hold it. -/
theorem total_eq_ok {current delta n : Int} {field : String} :
    total current delta field = .ok n ↔ current + delta ≤ greatestStored ∧ n = current + delta := by
  unfold total
  by_cases h : greatestStored < current + delta
  · rw [if_pos h, reject_eq_ok]
    exact iff_of_false id fun hle => Int.not_lt.2 hle.1 h
  · rw [if_neg h]
    constructor
    · rintro ⟨⟩
      exact ⟨Int.not_lt.1 h, rfl⟩
    · rintro ⟨-, rfl⟩
      rfl

/-! ### Texts -/

/-- A text that can stand in a column of some length: it is not empty, has no white
space around it and is no longer than the column. -/
structure IsLabel (most : Nat) (s : String) : Prop where
  nonempty : s ≠ ""
  trimmed : Text.IsTrimmed s
  length : s.length ≤ most

/-- What passes is a text that is not empty without the white space around it, and then
not too long; it passes trimmed. -/
theorem text_eq_ok {most : Option Int} :
    text v field most = .ok s ↔ ∃ raw, v.Spells raw ∧ s = Text.strip raw ∧ s ≠ "" ∧
      ∀ high ∈ most, (s.length : Int) ≤ high := by
  have hraw : ∀ raw, boundedText (.text raw) field 1 most = .ok s ↔
      s = Text.strip raw ∧ s ≠ "" ∧ ∀ high ∈ most, (s.length : Int) ≤ high := by
    intro raw
    have hempty : ∀ t : String, (t.length : Int) < 1 ↔ t = "" := by
      intro t
      rw [← String.length_eq_zero_iff]
      omega
    unfold boundedText
    dsimp only
    rw [guard_eq_ok, hempty]
    cases most with
    | none =>
      rw [pure_eq_ok]
      constructor
      · rintro ⟨hne, rfl⟩
        exact ⟨rfl, hne, nofun⟩
      · rintro ⟨rfl, hne, -⟩
        exact ⟨hne, rfl⟩
    | some high =>
      dsimp only
      rw [guard_eq_ok, pure_eq_ok, Int.not_lt]
      simp only [Option.mem_some_iff, forall_eq']
      constructor
      · rintro ⟨hne, hhigh, rfl⟩
        exact ⟨rfl, hne, hhigh⟩
      · rintro ⟨rfl, hne, hhigh⟩
        exact ⟨hne, hhigh, rfl⟩
  constructor
  · intro h
    cases v with
    | text raw => exact ⟨raw, .inl rfl, (hraw raw).1 h⟩
    | torn raw => exact ⟨raw, .inr rfl, (hraw raw).1 h⟩
    | _ =>
      unfold text boundedText at h
      exact (reject_eq_ok.1 h).elim
  · rintro ⟨raw, rfl | rfl, h⟩
    · exact (hraw raw).2 h
    · exact (hraw raw).2 h

/-- A text passes as one text only, for whatever field it is given. -/
theorem text_unique {other s' : String} {most most' : Option Int}
    (h : text v field most = .ok s) (h' : text v other most' = .ok s') : s = s' := by
  obtain ⟨raw, hraw, rfl, -⟩ := text_eq_ok.1 h
  obtain ⟨raw', hraw', rfl, -⟩ := text_eq_ok.1 h'
  rcases hraw with rfl | rfl <;> rcases hraw' with hraw' | hraw' <;> cases hraw' <;> rfl

/-- A text that passes is a label. -/
theorem isLabel_of_text (most : Nat) (h : text v field (some most) = .ok s) : IsLabel most s := by
  obtain ⟨raw, -, rfl, hne, hlength⟩ := text_eq_ok.1 h
  exact ⟨hne, Text.isTrimmed_strip raw, Int.ofNat_le.1 (hlength most rfl)⟩

/-- A text passes trimmed if something is left of it, and not too much. -/
theorem text_of_strip {raw : String} {most : Option Int} (hne : Text.strip raw ≠ "")
    (hmost : ∀ high ∈ most, ((Text.strip raw).length : Int) ≤ high) :
    text (.text raw) field most = .ok (Text.strip raw) :=
  text_eq_ok.2 ⟨raw, .inl rfl, rfl, hne, hmost⟩

/-- A label passes as it is. -/
theorem text_of_isLabel {most : Nat} (h : IsLabel most s) :
    text (.text s) field (some most) = .ok s := by
  have hstrip : Text.strip s = s := Text.strip_eq_self_iff.2 h.trimmed
  have htext : text (.text s) field (some most) = .ok (Text.strip s) := by
    refine text_of_strip ?_ fun high hhigh => ?_
    · rw [hstrip]
      exact h.nonempty
    · rw [hstrip, ← Option.mem_some_iff.1 hhigh]
      exact Int.ofNat_le.2 h.length
  rw [htext, hstrip]

/-- A text that may be left out is a label if it is not. -/
theorem isLabel_of_optionalText (most : Nat) {t? : Option String}
    (h : optionalText v field (some most) = .ok t?) : ∀ t ∈ t?, IsLabel most t := by
  rintro t rfl
  have hmap : ∀ w : Value, (text w field (some most)).map some = .ok (some t) →
      IsLabel most t := by
    intro w h
    cases hw : text w field (some most) with
    | error stop =>
      rw [hw] at h
      cases h
    | ok s =>
      rw [hw] at h
      cases h
      exact isLabel_of_text most hw
  unfold optionalText at h
  split at h
  · cases h
  · split at h
    · cases h
    · exact hmap _ h
  · split at h
    · cases h
    · exact hmap _ h
  · exact hmap _ h

/-! ### Email addresses -/

/-- Characters that stand together in an address: one at least, and neither an at sign
nor white space among them. -/
def IsAddressPart (cs : List Char) : Prop := cs ≠ [] ∧ ∀ c ∈ cs, isAddressChar c = true

/-- A text of the shape `local@domain.tld`. -/
def IsAddress (s : String) : Prop :=
  ∃ user host top, s.toList = user ++ '@' :: (host ++ '.' :: top) ∧
    IsAddressPart user ∧ IsAddressPart host ∧ IsAddressPart top

theorem oneThen_iff {c : Char} {rest : List Char → Bool} {cs : List Char} :
    oneThen c rest cs = true ↔ ∃ after, cs = c :: after ∧ rest after = true := by
  cases cs with
  | nil => simp [oneThen]
  | cons d cs => simp [oneThen, and_assoc]

theorem manyThen_iff {p : Char → Bool} {rest : List Char → Bool} {cs : List Char} :
    manyThen p rest cs = true ↔ ∃ part after, cs = part ++ after ∧ part ≠ [] ∧
      (∀ c ∈ part, p c = true) ∧ rest after = true := by
  induction cs with
  | nil =>
    constructor
    · rintro ⟨⟩
    · rintro ⟨part, after, h, hne, -, -⟩
      exact absurd (List.append_eq_nil_iff.1 h.symm).1 hne
  | cons c cs ih =>
    rw [manyThen, Bool.and_eq_true, Bool.or_eq_true, ih]
    constructor
    · rintro ⟨hc, hrest | ⟨part, after, rfl, -, hpart, hrest⟩⟩
      · exact ⟨[c], cs, rfl, List.cons_ne_nil _ _, fun d hd => List.mem_singleton.1 hd ▸ hc, hrest⟩
      · exact ⟨c :: part, after, rfl, List.cons_ne_nil _ _,
          List.forall_mem_cons.2 ⟨hc, hpart⟩, hrest⟩
    · rintro ⟨part, after, h, hne, hpart, hrest⟩
      obtain ⟨d, part, rfl⟩ := List.exists_cons_of_ne_nil hne
      obtain ⟨rfl, rfl⟩ := List.cons.inj h
      obtain ⟨hc, hpart⟩ := List.forall_mem_cons.1 hpart
      refine ⟨hc, ?_⟩
      by_cases hnil : part = []
      · subst hnil
        exact .inl hrest
      · exact .inr ⟨part, after, rfl, hnil, hpart, hrest⟩

theorem isEnd_iff {cs : List Char} : isEnd cs = true ↔ cs = [] ∨ cs = ['\n'] := by
  rw [isEnd, Bool.or_eq_true, List.isEmpty_iff, beq_iff_eq]

/-- The check of the shape of an address is what it says: a trimmed text ends in no line
feed. -/
theorem isAddress_iff (h : Text.IsTrimmed s) : isAddress s.toList = true ↔ IsAddress s := by
  unfold isAddress IsAddress IsAddressPart
  simp only [manyThen_iff, oneThen_iff, isEnd_iff]
  constructor
  · rintro ⟨user, _, hs, hune, huser, _, rfl, host, _, rfl, hhne, hhost, _, rfl, top, _, rfl,
      htne, htop, rfl | rfl⟩
    · rw [List.append_nil] at hs
      exact ⟨user, host, top, hs, ⟨hune, huser⟩, ⟨hhne, hhost⟩, htne, htop⟩
    · have hlast : s.toList.getLast? = some '\n' := by
        rw [hs, List.getLast?_append, List.getLast?_cons, List.getLast?_append,
          List.getLast?_cons, List.getLast?_append]
        rfl
      exact absurd (h.last _ hlast) (by decide)
  · rintro ⟨user, host, top, hs, ⟨hune, huser⟩, ⟨hhne, hhost⟩, htne, htop⟩
    exact ⟨user, _, hs, hune, huser, _, rfl, host, _, rfl, hhne, hhost, _, rfl, top, [],
      (List.append_nil _).symm, htne, htop, .inl rfl⟩

theorem IsAddress.ne_empty (h : IsAddress s) : s ≠ "" := by
  obtain ⟨user, host, top, hs, -⟩ := h
  rintro rfl
  exact List.append_ne_nil_of_right_ne_nil user (List.cons_ne_nil _ _) hs.symm

/-- What passes is a text that is, without the white space around it, not too long and of
the shape of an address. -/
theorem email_eq_ok :
    email v field = .ok s ↔
      ∃ raw, v.Spells raw ∧ s = Text.strip raw ∧ s.length ≤ 255 ∧ IsAddress s := by
  unfold email
  rw [Except.bind_eq_ok]
  constructor
  · rintro ⟨t, ht, h⟩
    obtain ⟨raw, hraw, rfl, -, hlength⟩ := text_eq_ok.1 ht
    split at h
    · rename_i hshape
      obtain rfl := Except.ok.inj h
      exact ⟨raw, hraw, rfl, Int.ofNat_le.1 (hlength emailLimit rfl),
        (isAddress_iff (Text.isTrimmed_strip raw)).1 hshape⟩
    · exact (reject_eq_ok.1 h).elim
  · rintro ⟨raw, hraw, rfl, hlength, hshape⟩
    refine ⟨_, text_eq_ok.2 ⟨raw, hraw, rfl, hshape.ne_empty, fun high hhigh => ?_⟩, ?_⟩
    · rw [← Option.mem_some_iff.1 hhigh]
      exact Int.ofNat_le.2 hlength
    · rw [if_pos ((isAddress_iff (Text.isTrimmed_strip raw)).2 hshape)]
      rfl

/-- An address that passes is a label of the shape of one. -/
theorem isLabel_of_email (h : email v field = .ok s) : IsLabel 255 s ∧ IsAddress s := by
  obtain ⟨raw, -, rfl, hlength, hshape⟩ := email_eq_ok.1 h
  exact ⟨⟨hshape.ne_empty, Text.isTrimmed_strip raw, hlength⟩, hshape⟩

/-- A label of the shape of an address passes as it is. -/
theorem email_of_isLabel (h : IsLabel 255 s) (hshape : IsAddress s) :
    email (.text s) field = .ok s :=
  email_eq_ok.2 ⟨s, .inl rfl, (Text.strip_eq_self_iff.2 h.trimmed).symm, h.length, hshape⟩

end Input

end Guildhall
