/-
Guildhall/Proofs/Address.lean

The language of email addresses.  The check looks for some characters, an at sign, some
characters, a point and some characters, and takes any way to read a text like that; the
points between the at sign and the end leave it a choice.  What it accepts can be said
without any reading (`IsMail`): there is no white space, there is one at sign, something
stands before it, and a point stands behind it with something on either side.

    email v field = .ok e  ↔  e is the text of v, trimmed, of 255 characters at most, and IsMail e

Everything else is refused with a complaint about the field.  A refusal writes the value
down, which cannot be done with a whole number of more than 4300 digits; no other value
stops the check in another way, as long as it is not nested more deeply than can be written
down, which is left out here.

Main statements: `isAddress_iff_isMail` and `email_language`.
-/
import Guildhall.Proofs.Input
import Guildhall.Proofs.Numeral
import Guildhall.Proofs.Stopping
import Mathlib.Data.Bool.AllAny

namespace Guildhall.Input

variable {v : Value} {field s e : String}

/-! ### The language -/

/-- The part of a text in front of its first at sign. -/
def userPart (s : String) : List Char := s.toList.takeWhile (· != '@')

/-- The part of a text behind its first at sign. -/
def hostPart (s : String) : List Char := (s.toList.dropWhile (· != '@')).tail

/-- A text without white space and with one at sign, something before it, and behind it a
point that is neither the first nor the last character there. -/
structure IsMail (s : String) : Prop where
  unbroken : ∀ c ∈ s.toList, Text.isBlank c = false
  atSign : s.toList.count '@' = 1
  user : userPart s ≠ []
  point : ∃ i, 0 < i ∧ i + 1 < (hostPart s).length ∧ (hostPart s)[i]? = some '.'

theorem isAddressChar_iff {c : Char} :
    isAddressChar c = true ↔ c ≠ '@' ∧ Text.isBlank c = false := by
  rw [isAddressChar, Bool.and_eq_true, bne_iff_ne, Bool.not_eq_true']

/-- A text with an at sign behind a part without one is cut there. -/
theorem parts_of_toList {user host : List Char} (hs : s.toList = user ++ '@' :: host)
    (huser : '@' ∉ user) : userPart s = user ∧ hostPart s = host := by
  have hclass : ∀ c ∈ user, (c != '@') = true := fun c hc =>
    bne_iff_ne.2 fun h => huser (h ▸ hc)
  unfold userPart hostPart
  rw [hs, List.takeWhile_append_of_pos hclass, List.dropWhile_append_of_pos hclass]
  exact ⟨List.append_nil user, rfl⟩

/-- A text with one at sign is its two parts with the sign between them. -/
theorem toList_eq_parts (h : s.toList.count '@' = 1) :
    s.toList = userPart s ++ '@' :: hostPart s ∧ '@' ∉ userPart s ∧ '@' ∉ hostPart s := by
  obtain ⟨user, host, hs, huser⟩ :=
    List.eq_append_cons_of_mem (List.count_pos_iff.1 (h.symm ▸ Nat.one_pos))
  have hhost : '@' ∉ host := by
    rw [hs, List.count_append, List.count_cons_self, List.count_eq_zero.2 huser] at h
    exact List.count_eq_zero.1 (by omega)
  obtain ⟨hu, hh⟩ := parts_of_toList hs huser
  rw [hu, hh]
  exact ⟨hs, huser, hhost⟩

/-- A character that is neither the first nor the last one has something on either side. -/
theorem exists_inner_iff {c : Char} {cs : List Char} :
    (∃ i, 0 < i ∧ i + 1 < cs.length ∧ cs[i]? = some c) ↔
      ∃ before after, cs = before ++ c :: after ∧ before ≠ [] ∧ after ≠ [] := by
  constructor
  · rintro ⟨i, hpos, hlast, hc⟩
    obtain ⟨hi, rfl⟩ := List.getElem?_eq_some_iff.1 hc
    refine ⟨cs.take i, cs.drop (i + 1), ?_, ?_, ?_⟩
    · rw [← List.drop_eq_getElem_cons hi, List.take_append_drop]
    · exact List.ne_nil_of_length_pos (by rw [List.length_take]; omega)
    · exact List.ne_nil_of_length_pos (by rw [List.length_drop]; omega)
  · rintro ⟨before, after, rfl, hbefore, hafter⟩
    refine ⟨before.length, List.length_pos_iff.2 hbefore, ?_, ?_⟩
    · have hpos := List.length_pos_iff.2 hafter
      rw [List.length_append, List.length_cons]
      omega
    · rw [List.getElem?_append_right (Nat.le_refl _), Nat.sub_self]
      rfl

/-- **The shape of an address says which texts are addresses**: any inner point behind the
at sign will do. -/
theorem isAddress_iff_isMail : IsAddress s ↔ IsMail s := by
  constructor
  · rintro ⟨user, host, top, hs, ⟨hune, huser⟩, ⟨hhne, hhost⟩, htne, htop⟩
    simp only [isAddressChar_iff] at huser hhost htop
    have huser' : '@' ∉ user := fun h => (huser _ h).1 rfl
    have hrest : '@' ∉ host ++ '.' :: top := by
      simp only [List.mem_append, List.mem_cons, not_or]
      exact ⟨fun h => (hhost _ h).1 rfl, by decide, fun h => (htop _ h).1 rfl⟩
    obtain ⟨hu, hh⟩ := parts_of_toList hs huser'
    refine ⟨?_, ?_, hu ▸ hune, exists_inner_iff.2 ⟨host, top, hh, hhne, htne⟩⟩
    · rw [hs]
      simp only [List.forall_mem_append, List.forall_mem_cons]
      exact ⟨fun c hc => (huser c hc).2, by decide, fun c hc => (hhost c hc).2, by decide,
        fun c hc => (htop c hc).2⟩
    · rw [hs, List.count_append, List.count_cons_self, List.count_eq_zero.2 huser',
        List.count_eq_zero.2 hrest]
  · rintro ⟨hunbroken, hat, hune, hpoint⟩
    obtain ⟨hs, huser, hrest⟩ := toList_eq_parts hat
    obtain ⟨host, top, hh, hhne, htne⟩ := exists_inner_iff.1 hpoint
    rw [hh] at hs hrest
    rw [hs] at hunbroken
    simp only [List.forall_mem_append, List.forall_mem_cons] at hunbroken
    simp only [List.mem_append, List.mem_cons, not_or] at hrest
    obtain ⟨hu, -, hho, -, ht⟩ := hunbroken
    -- A part of a text is one of an address, if the signs are kept out of it.
    have hpart : ∀ {cs : List Char}, cs ≠ [] → '@' ∉ cs → (∀ c ∈ cs, Text.isBlank c = false) →
        IsAddressPart cs := fun hne hsign hblank =>
      ⟨hne, fun c hc => isAddressChar_iff.2 ⟨fun h => hsign (h ▸ hc), hblank c hc⟩⟩
    exact ⟨_, _, _, hs, hpart hune huser hu, hpart hhne hrest.1 hho, hpart htne hrest.2.2 ht⟩

/-! ### Refusals -/

/-- A stop that is a complaint about a field. -/
def IsComplaint (field : String) (stop : Stop) : Prop :=
  ∃ complaint, stop = .failure (.invalid field complaint)

theorem reject_of_isWritable {α : Type} {given : Value} {complaint : Complaint}
    (h : given.isWritable = true) :
    (reject given field complaint : Except Stop α) = .error (.failure (.invalid field complaint)) :=
  if_pos h

theorem only_complaint_reject {α : Type} {given : Value} {complaint : Complaint}
    (h : given.isWritable = true) :
    Except.Only (IsComplaint field) (reject given field complaint : Except Stop α) := by
  rw [reject_of_isWritable h]
  exact .error ⟨complaint, rfl⟩

/-- A look at a text that may complain, before what comes next. -/
theorem only_complaint_guarded {α : Type} {c : Prop} [Decidable c] {given : Value}
    {complaint : Complaint} {x : Unit → Except Stop α} (h : given.isWritable = true)
    (hx : Except.Only (IsComplaint field) (x ())) :
    Except.Only (IsComplaint field)
      (if c then reject given field complaint >>= x else x ()) := by
  split
  · exact (only_complaint_reject h).bind fun _ h => (reject_eq_ok.1 h).elim
  · exact hx

/-- The only stop of the check of a text, for a value that can be written down, is a
complaint about its field. -/
theorem only_complaint_text {most : Option Int} (h : v.isWritable = true) :
    Except.Only (IsComplaint field) (text v field most) := by
  have hraw : ∀ raw, Except.Only (IsComplaint field) (boundedText (.text raw) field 1 most) := by
    intro raw
    unfold boundedText
    cases most with
    | none => exact only_complaint_guarded rfl .ok
    | some high => exact only_complaint_guarded rfl (only_complaint_guarded rfl .ok)
  unfold text
  cases v with
  | text raw => exact hraw raw
  | torn raw => exact hraw raw
  | _ => exact only_complaint_reject h

/-- It is the same with an address. -/
theorem only_complaint_email (h : v.isWritable = true) :
    Except.Only (IsComplaint field) (email v field) := by
  refine (only_complaint_text h).bind fun t _ => ?_
  split
  · exact .ok
  · exact only_complaint_reject rfl

/-- A value that cannot be written down is no text. -/
theorem email_of_not_isWritable (h : v.isWritable = false) :
    email v field = .error (.badValue tooManyDigits) := by
  have hreject : text v field (some emailLimit) = .error (.badValue tooManyDigits) := by
    unfold text boundedText
    cases v with
    | text raw => cases h
    | torn raw => cases h
    | _ => exact if_neg (by rw [h]; exact Bool.false_ne_true)
  unfold email
  rw [hreject]
  rfl

/-! ### The check -/

/-- **The check of an email address accepts its language** and nothing else, for every
value: what is accepted is the text without the white space around it.  Everything else is
refused with a complaint about the field, if it can be written down, and nothing is stopped
by anything else but digits without end.  What is accepted is accepted again, unchanged. -/
theorem email_language (v : Value) (field : String) :
    (∀ e, email v field = .ok e ↔
        ∃ raw, v.Spells raw ∧ e = Text.strip raw ∧ e.length ≤ 255 ∧ IsMail e) ∧
      ((∃ complaint, email v field = .error (.failure (.invalid field complaint))) ↔
        v.isWritable = true ∧ ∀ e, email v field ≠ .ok e) ∧
      (email v field = .error (.badValue tooManyDigits) ↔ v.isWritable = false) ∧
      ∀ e other, email v field = .ok e → email (.text e) other = .ok e := by
  have hone : ∀ complaint, email v field = .error (.failure (.invalid field complaint)) →
      v.isWritable = true := by
    intro complaint h
    by_contra hnot
    rw [email_of_not_isWritable (eq_false_of_ne_true hnot)] at h
    cases h
  refine ⟨fun e => ?_, ⟨?_, ?_⟩, ⟨?_, email_of_not_isWritable⟩, fun e other h => ?_⟩
  · rw [email_eq_ok]
    simp only [isAddress_iff_isMail]
  · rintro ⟨complaint, h⟩
    exact ⟨hone complaint h, fun e he => nomatch he.symm.trans h⟩
  · rintro ⟨hwritable, hne⟩
    cases hresult : email v field with
    | ok e => exact absurd hresult (hne e)
    | error stop =>
      obtain ⟨complaint, rfl⟩ := only_complaint_email hwritable stop hresult
      exact ⟨complaint, rfl⟩
  · intro h
    by_contra hwritable
    obtain ⟨complaint, hstop⟩ := only_complaint_email (eq_true_of_ne_false hwritable) _ h
    cases hstop
  · obtain ⟨hlabel, hshape⟩ := isLabel_of_email h
    exact email_of_isLabel hlabel hshape

/-- The smallest number that has too many digits. -/
theorem not_isWritable_endless :
    Value.isWritable (.int ((10 ^ Text.Numeral.digitLimit : Nat) : Int)) = false := by
  rw [Value.isWritable, ← Bool.not_eq_true, Text.Numeral.isWritable_iff, Int.natAbs_natCast]
  exact Nat.lt_irrefl _

/-- A point at either end of the host and two in a row are accepted, if there is one inside
it as well; null is no address, and a number with too many digits stops the check itself. -/
theorem email_language_postcard :
    email (.text "\u2003ada.l@.b..c.\n") "email" = .ok "ada.l@.b..c." ∧
      email (.text "ada.l@.b..c.") "contact" = .ok "ada.l@.b..c." ∧
      (∃ complaint, email .null "email" = .error (.failure (.invalid "email" complaint))) ∧
      email (.int ((10 ^ Text.Numeral.digitLimit : Nat) : Int)) "email" =
        .error (.badValue tooManyDigits) := by
  have hmail : IsMail "ada.l@.b..c." :=
    { unbroken := List.all_iff_forall_prop.1 (by decide)
      atSign := by decide
      user := by decide
      point := ⟨2, by decide⟩ }
  obtain ⟨hok, -, -, hagain⟩ := email_language (.text "\u2003ada.l@.b..c.\n") "email"
  obtain ⟨-, hrefused, -, -⟩ := email_language .null "email"
  obtain ⟨-, -, hstopped, -⟩ :=
    email_language (.int ((10 ^ Text.Numeral.digitLimit : Nat) : Int)) "email"
  have hpasses := (hok _).2 ⟨_, .inl rfl, by decide, by decide, hmail⟩
  exact ⟨hpasses, hagain _ _ hpasses, hrefused.2 ⟨rfl, nofun⟩,
    hstopped.2 not_isWritable_endless⟩

/-- That number is no address, and there is no complaint about the field either. -/
theorem email_endless :
    (∀ e, email (.int ((10 ^ Text.Numeral.digitLimit : Nat) : Int)) "email" ≠ .ok e) ∧
      ∀ complaint, email (.int ((10 ^ Text.Numeral.digitLimit : Nat) : Int)) "email" ≠
        .error (.failure (.invalid "email" complaint)) := by
  rw [email_of_not_isWritable not_isWritable_endless]
  exact ⟨nofun, nofun⟩

end Guildhall.Input
