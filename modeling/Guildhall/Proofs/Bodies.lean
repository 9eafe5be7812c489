/-
Guildhall/Proofs/Bodies.lean

What a request hands to the service.  A body is read by a schema, and what is read holds
for each field what its rule allows: null where it may be left out, and otherwise a text, a
whole number or a truth value (`Schema.Holds`).  The numbers have few enough digits to be
written, wherever they come from.  So the arguments of the call behind a request are plain:
there is no infinity, no list and no object among them, and the checks of the call refuse
them with complaints about a field, or not at all.

    fieldsOf e r = .ok fields  →  every argument of e.call parameters fields is Plain

Main statements: `Endpoint.sound_schema`, `plain_arguments` and `complaint_check`.
-/
import Guildhall.Proofs.Arguments
import Guildhall.Proofs.Fields
import Guildhall.Proofs.Forwarding
import Guildhall.Proofs.JsonNumber
import Guildhall.Proofs.WholeNumber

namespace Guildhall.Gateway

open Number Text

/-! ### Values by their kind -/

/-- What a body can hold of a kind: a text, perhaps a torn one, a whole number that can be
written, or a truth value. -/
inductive Kind.Holds : Kind → Value → Prop
  | text {v : Value} {s : String} (h : v.Spells s) : Holds .text v
  | number {n : Int} (h : Numeral.isWritable n = true) : Holds .number (.int n)
  | flag (b : Bool) : Holds .flag (.bool b)

theorem natAbs_ofDigits_lt {ds : List Char} {n : Int} (hds : ds.length ≤ Numeral.digitLimit)
    (h : ofDigits ds = .ok n) : n.natAbs < 10 ^ Numeral.digitLimit := by
  unfold ofDigits at h
  dsimp only at h
  split at h
  · cases h
  · cases h
    rw [Int.natAbs_natCast]
    exact Numeral.readDigits_lt_limit hds

theorem isWritable_numeral {s : String} {n : Int} (h : numeral s = .ok n) :
    Numeral.isWritable n = true := by
  rw [Numeral.isWritable_iff]
  unfold numeral at h
  split at h
  · cases h
  · split at h
    · cases h
    · rename_i cs _ hlength
      split at h
      · rename_i ds _
        obtain ⟨k, hk, rfl⟩ := Except.map_eq_ok.1 h
        rw [List.length_cons] at hlength
        exact (Int.natAbs_neg k).trans_lt (natAbs_ofDigits_lt (by omega) hk)
      · exact natAbs_ofDigits_lt (Nat.not_lt.1 hlength) h

theorem isWritable_wholeFloat {x : Binary64} {n : Int} (h : wholeFloat x = .ok n) :
    Numeral.isWritable n = true := by
  unfold wholeFloat at h
  split at h
  · cases h
  · split at h
    · cases h
    · split at h
      · rename_i hinside
        cases h
        unfold isInside leastStored greatestStored at hinside
        rw [Bool.and_eq_true, decide_eq_true_iff, decide_eq_true_iff] at hinside
        exact Numeral.isWritable_of_lt (by omega)
      · cases h

theorem isWritable_readNumber {v : Value} {n : Int} (hv : v.isWritable = true)
    (h : readNumber v = .ok n) : Numeral.isWritable n = true := by
  cases v with
  | int n =>
    cases h
    exact hv
  | bool b =>
    cases h
    cases b <;> exact Numeral.isWritable_of_lt (by decide)
  | float x => exact isWritable_wholeFloat h
  | text s => exact isWritable_numeral h
  | _ => cases h

/-- A value that can be written is read as one of its kind. -/
theorem Kind.holds_of_read {kind : Kind} {v w : Value} (hv : v.isWritable = true)
    (h : kind.read v = .ok w) : kind.Holds w := by
  cases kind with
  | text =>
    cases v with
    | text s =>
      cases h
      exact .text (.inl rfl)
    | torn s =>
      cases h
      exact .text (.inr rfl)
    | _ => cases h
  | number =>
    obtain ⟨n, hn, rfl⟩ := Except.map_eq_ok.1 h
    exact .number (isWritable_readNumber hv hn)
  | flag =>
    obtain ⟨b, -, rfl⟩ := Except.map_eq_ok.1 h
    exact .flag b

theorem isWritable_readJson {bytes : List UInt8} {v : Value} (h : readJson bytes = .ok v) :
    v.isWritable = true := by
  unfold readJson at h
  split at h
  · cases h
  · split at h
    · rename_i hread
      cases h
      exact Json.isWritable_readDecoded hread
    · cases h
    · cases h
    · cases h

/-! ### Fields by their rule -/

namespace FieldRule

variable {rule : FieldRule} {fields : List (String × Value)} {field : String × Value}

/-- What a field by a rule can hold: null, if that is allowed, or what is of its kind. -/
def Holds (rule : FieldRule) (v : Value) : Prop :=
  (rule.nullable = true ∧ v = .null) ∨ rule.kind.Holds v

/-- A rule of which a missing field counts as something that the field can hold. -/
def Sound (rule : FieldRule) : Prop := ∀ v ∈ rule.fallback, rule.Holds v

theorem sound_required (name : String) (kind : Kind) : (required name kind).Sound := nofun

theorem sound_optional (name : String) {kind : Kind} {fallback : Value}
    (h : kind.Holds fallback) : (optional name kind fallback).Sound := by
  rintro _ ⟨⟩
  exact .inr h

theorem sound_nullableField (name : String) (kind : Kind) : (nullableField name kind).Sound := by
  rintro _ ⟨⟩
  exact .inl ⟨rfl, rfl⟩

/-- A field that is read holds what it can. -/
theorem holds_of_read (hsound : rule.Sound) (hfields : Value.haveWritable fields = true)
    (h : rule.read fields = .ok field) : rule.Holds field.2 := by
  unfold read at h
  cases hlookup : fields.lookup rule.name with
  | none =>
    rw [hlookup] at h
    cases hfallback : rule.fallback with
    | none =>
      rw [hfallback] at h
      cases h
    | some fallback =>
      rw [hfallback] at h
      cases h
      exact hsound fallback hfallback
  | some v =>
    have hv : v.isWritable = true :=
      Value.haveWritable_iff.1 hfields _ (mem_of_lookup hlookup)
    rw [hlookup] at h
    dsimp only at h
    split at h
    · rename_i hnullable
      cases h
      exact .inl ⟨hnullable, rfl⟩
    · split at h
      · rename_i hread
        cases h
        exact .inr (Kind.holds_of_read hv hread)
      · cases h

end FieldRule

variable {e : Endpoint} {r : Request} {parameters : List String}
  {fields : List (String × Value)}

/-- The fields of a body that is read by a schema. -/
def Schema.Holds (schema : Schema) (fields : List (String × Value)) : Prop :=
  List.Forall₂ (fun rule field => field.1 = rule.name ∧ rule.Holds field.2) schema fields

theorem Schema.holds_of_read {schema : Schema} {read : List (String × Value)}
    (hsound : ∀ rule ∈ schema, rule.Sound) (hfields : Value.haveWritable fields = true)
    (h : schema.read fields = .ok read) : schema.Holds read := by
  have hread := Schema.forall₂_of_read h
  clear h
  induction hread with
  | nil => exact .nil
  | cons hfield _ ih =>
    obtain ⟨hrule, hrules⟩ := List.forall_mem_cons.1 hsound
    exact .cons ⟨FieldRule.name_of_read hfield, FieldRule.holds_of_read hrule hfields hfield⟩
      (ih hrules)

/-- **Every default passes its own check.** -/
theorem Endpoint.sound_schema (e : Endpoint) : ∀ rule ∈ e.schema?.getD [], rule.Sound := by
  have hzero : ∀ name, (FieldRule.optional name .number (.int 0)).Sound := fun name =>
    FieldRule.sound_optional name (.number (Numeral.isWritable_of_lt (by decide)))
  have hempty : ∀ name, (FieldRule.optional name .text (.text "")).Sound := fun name =>
    FieldRule.sound_optional name (.text (.inl rfl))
  have hoff : ∀ name, (FieldRule.optional name .flag (.bool false)).Sound := fun name =>
    FieldRule.sound_optional name (.flag false)
  cases e <;> simp [schema?, zeroFields, openTexts, openNumbers, FieldRule.sound_required,
    FieldRule.sound_nullableField, hzero, hempty, hoff]

/-- The fields of a body that is read hold what they can. -/
theorem holds_of_fieldsOf (h : fieldsOf e r = .ok fields) :
    Schema.Holds (e.schema?.getD []) fields := by
  obtain ⟨given, hgiven, hread⟩ := exists_read_of_fieldsOf h
  refine Schema.holds_of_read e.sound_schema ?_ hread
  rcases hgiven with rfl | hjson
  · rfl
  · exact isWritable_readJson hjson

/-! ### Arguments of requests -/

/-- A value as a path or a body gives it: null, or what can be held of a kind. -/
def Plain (v : Value) : Prop := v = .null ∨ ∃ kind : Kind, kind.Holds v

namespace Plain

variable {v : Value}

theorem text (s : String) : Plain (.text s) := .inr ⟨.text, .text (.inl rfl)⟩

theorem isWritable (h : Plain v) : v.isWritable = true := by
  obtain rfl | ⟨kind, h⟩ := h
  · rfl
  · cases h with
    | text h => obtain rfl | rfl := h <;> rfl
    | number h => exact h
    | flag b => rfl

/-- It stands for no other numbers than whole ones that can be written. -/
theorem exists_of_standsFor (h : Plain v) {q : ℚ} (hq : v.StandsFor q) :
    ∃ n : ℤ, q = n ∧ Numeral.isWritable n = true := by
  obtain rfl | ⟨kind, h⟩ := h
  · cases hq
  · cases h with
    | text h =>
      obtain rfl | rfl := h <;>
      · cases hq with
        | _ hread => exact ⟨_, rfl, Numeral.isWritable_of_read hread⟩
    | number h =>
      cases hq
      exact ⟨_, rfl, h⟩
    | flag b => cases hq

theorem not_strays (h : Plain v) {least most : Option ℤ}
    (hleast : ∀ low ∈ least, Numeral.isWritable low = true)
    (hmost : ∀ high ∈ most, Numeral.isWritable high = true) : ¬Input.Strays least most v := by
  intro hstrays
  cases hstrays with
  | fraction hq hfraction hwithin =>
    obtain ⟨n, rfl, -⟩ := h.exists_of_standsFor hq
    exact hfraction n rfl
  | infinite hv =>
    subst hv
    obtain ⟨⟨⟩⟩ | ⟨kind, hkind⟩ := h
    cases hkind with
    | text h => obtain ⟨⟨⟩⟩ | ⟨⟨⟩⟩ := h
  | endless hnone hdigits => exact Bool.false_ne_true (hdigits.symm.trans h.isWritable)
  | beyond hq hbreaks hdigits =>
    obtain ⟨n, rfl, hn⟩ := h.exists_of_standsFor hq
    rw [towardZero_intCast] at hdigits
    refine hdigits ⟨?_, hn⟩
    rcases hbreaks with ⟨hmem, -⟩ | ⟨-, hmem, -⟩
    · exact hleast _ hmem
    · exact hmost _ hmem

end Plain

/-- A field that is there is one by a rule. -/
theorem Schema.Holds.exists_rule {schema : Schema} (h : schema.Holds fields)
    {field : String × Value} (hfield : field ∈ fields) : ∃ rule ∈ schema, rule.Holds field.2 := by
  unfold Schema.Holds at h
  induction h with
  | nil => cases hfield
  | cons hrule _ ih =>
    rcases List.mem_cons.1 hfield with rfl | hfield
    · exact ⟨_, .head _, hrule.2⟩
    · obtain ⟨rule, hmem, hholds⟩ := ih hfield
      exact ⟨rule, .tail _ hmem, hholds⟩

theorem Schema.Holds.plain_get {schema : Schema} (h : schema.Holds fields) (name : String) :
    Plain (Value.get fields name) := by
  unfold Value.get
  cases hlookup : fields.lookup name with
  | none => exact .inl rfl
  | some v =>
    obtain ⟨rule, -, hholds⟩ := h.exists_rule (mem_of_lookup hlookup)
    exact hholds.imp And.right fun h => ⟨rule.kind, h⟩

/-- **What a request hands to the service is plain.** -/
theorem plain_arguments (h : fieldsOf e r = .ok fields) :
    ∀ v ∈ (e.call parameters fields).arguments, Plain v := by
  have hfield := (holds_of_fieldsOf h).plain_get
  have htext := Plain.text
  cases e <;> simp [Endpoint.call, Call.arguments, hfield, htext]

/-- What is there by a rule that asks for a text is one. -/
theorem FieldRule.Holds.spells {name : String} {v : Value} (h : (required name .text).Holds v) :
    ∃ s, v.Spells s := by
  obtain ⟨⟨⟩, -⟩ | h := h
  cases h with
  | text h => exact ⟨_, h⟩

/-- Those who log in give two texts. -/
theorem spells_of_login (h : fieldsOf .login r = .ok fields) :
    (∃ key, (Value.get fields "id").Spells key) ∧
      ∃ password, (Value.get fields "password").Spells password := by
  have hholds : Schema.Holds [.required "id" .text, .required "password" .text] fields :=
    holds_of_fieldsOf h
  obtain _ | ⟨⟨hid, hkey⟩, hrest⟩ := hholds
  obtain _ | ⟨⟨hpassword, hp⟩, hnone⟩ := hrest
  cases hnone
  rename_i id password
  obtain ⟨id, key⟩ := id
  obtain ⟨name, password⟩ := password
  obtain rfl : id = "id" := hid
  obtain rfl : name = "password" := hpassword
  exact ⟨hkey.spells, hp.spells⟩

open Input in
/-- **Plain arguments are refused with a complaint about a field**, and in no other way. -/
theorem complaint_check {call : Call} (h : ∀ v ∈ call.arguments, Plain v) :
    Except.Only (fun stop => ∃ field, IsComplaint field stop) call.check := by
  refine call.only_check ?_ ?_ ?_
  · intro v hv field most hmost stop hstop
    have hzero : ∀ low ∈ some (0 : ℤ), Numeral.isWritable low = true := by
      rintro _ ⟨⟩
      exact Numeral.isWritable_of_lt (by decide)
    have hhigh : ∀ high ∈ most, Numeral.isWritable high = true := by
      rintro high rfl
      obtain rfl : high = greatestAmount := by simpa using hmost
      exact Numeral.isWritable_of_lt (by decide)
    have hwhole : WholeOnly v field (some 0) most :=
      wholeOnly_of_not_strays ((h v hv).not_strays hzero hhigh)
    obtain ⟨complaint, hrefused⟩ := hwhole.refused fun n ⟨hn, hwithin⟩ => by
      rw [integer_eq_towardZero.2 ⟨_, hn, towardZero_intCast n, hwithin⟩] at hstop
      cases hstop
    exact ⟨field, complaint, Except.error.inj (hstop.symm.trans hrefused)⟩
  · intro v hv field most stop hstop
    exact ⟨field, only_complaint_text (h v hv).isWritable stop hstop⟩
  · intro v hv field stop hstop
    exact ⟨field, only_complaint_email (h v hv).isWritable stop hstop⟩

end Guildhall.Gateway
