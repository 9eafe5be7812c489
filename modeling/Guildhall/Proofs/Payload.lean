/-
Guildhall/Proofs/Payload.lean

Claims in the payload of a token.  What is empty is left out of a payload, and
reads as empty; so the texts of claims come back as they were.  The dates of
a payload have few digits if the calendar has them.

For each name, `…_eq_ok` says when something is read there, and what.

Main statements: `Claims.ofFields_payload`, `Claims.clear_payload` and
`Claims.ofFields_eq_ok`.
-/
import Guildhall.Claims
import Guildhall.Proofs.Calendar
import Guildhall.Proofs.Fields
import Guildhall.Proofs.Input
import Guildhall.Proofs.JsonValue

namespace Guildhall

namespace Value

/-! ### What a value stands for -/

/-- What a field gives: what its value stands for, or a default if it is null or missing. -/
def Gives {α : Type} (stands : Value → α → Prop) (default : α) (v : Value) (a : α) : Prop :=
  v = .null ∧ a = default ∨ stands v a

/-- A text on its own, or a list of nothing but texts in their order. -/
def Lists (v : Value) (names : List String) : Prop :=
  (∃ s, v.Spells s ∧ names = [s]) ∨ ∃ items, v = .list items ∧ List.Forall₂ Spells items names

end Value

namespace Claims

variable {fields : List (String × Value)} {name : String} {c : Claims}

/-! ### What is written -/

/-- The fields of a payload before what is empty is left out. -/
def entries (c : Claims) : List (String × Value) :=
  [("user_id", .text c.userId), ("username", .text c.username), ("user_email", .text c.userEmail),
    ("is_admin", .bool c.isAdmin), ("aud", audienceValue c.audience),
    ("exp", dateValue (some c.expiresAt)), ("iat", dateValue c.issuedAt),
    ("nbf", dateValue c.notBefore), ("iss", .text c.issuer), ("jti", .text c.tokenId)]

/-- The names of the fields of a payload. -/
def names : List String :=
  ["user_id", "username", "user_email", "is_admin", "aud", "exp", "iat", "nbf", "iss", "jti"]

theorem map_entries (c : Claims) : c.entries.map (·.1) = names := rfl

theorem payload_eq (c : Claims) : c.payload = c.entries.filter fun f => !isEmptyClaim f.2 := rfl

/-- What a payload holds under a name. -/
theorem lookup_payload (c : Claims) (name : String) :
    c.payload.lookup name = (c.entries.lookup name).filter (!isEmptyClaim ·) := by
  have hnames : (c.entries.map (·.1)).Nodup := by
    rw [map_entries]
    decide
  rw [payload_eq, lookup_filterValues (!isEmptyClaim ·) hnames]

/-- A payload can be read back if the calendar has its dates. -/
theorem clear_payload (hexpiry : c.expiresAt.inCalendar = true)
    (hissued : ∀ t ∈ c.issuedAt, t.inCalendar = true)
    (hnotBefore : ∀ t ∈ c.notBefore, t.inCalendar = true) :
    Json.Clear Json.nestingLimit (.object c.payload) := by
  have hnames : (c.payload.map (·.1)).Nodup := by
    have hsub : (c.payload.map (·.1)).Sublist names := List.filter_sublist.map _
    exact hsub.nodup (by decide)
  have hdate : ∀ {room : Nat} {date : Option Instant}, (∀ t ∈ date, t.inCalendar = true) →
      Json.Clear room (dateValue date) := by
    intro room date h
    cases date with
    | none => exact .null
    | some t =>
      -- The calendar ends before the nineteenth digit of a second.
      have hlimit := Text.Numeral.length_natDigits_le 18 (Instant.natAbs_seconds_lt (h t rfl))
      exact .int (Nat.le_trans hlimit (by decide))
  have haudience : Json.Clear 959 (audienceValue c.audience) := by
    have htexts : ∀ names : List String,
        Json.Clear 959 (.list (names.map .text)) := by
      intro names
      refine .list fun v hv => ?_
      obtain ⟨name, -, rfl⟩ := List.mem_map.1 hv
      exact .text name
    unfold audienceValue
    split
    · exact .text _
    · exact htexts _
  refine .object hnames fun f hf => ?_
  have hentry : f ∈ c.entries := (List.mem_filter.1 hf).1
  simp only [entries, List.mem_cons, List.not_mem_nil, or_false] at hentry
  rcases hentry with rfl | rfl | rfl | rfl | rfl | rfl | rfl | rfl | rfl | rfl
  · exact .text _
  · exact .text _
  · exact .text _
  · exact .bool _
  · exact haudience
  · exact hdate fun t ht => Option.mem_some.1 ht ▸ hexpiry
  · exact hdate hissued
  · exact hdate hnotBefore
  · exact .text _
  · exact .text _

/-! ### What is read -/

/-- A claim that is not empty is found in the payload. -/
theorem get_payload {name : String} {v : Value} (h : c.entries.lookup name = some v)
    (hkept : isEmptyClaim v = false) :
    Value.get c.payload name = v := by
  unfold Value.get
  rw [lookup_payload, h, Option.filter_some, hkept]
  rfl

/-- An empty claim is not found. -/
theorem get_payload_of_isEmpty {name : String} {v : Value} (h : c.entries.lookup name = some v)
    (hempty : isEmptyClaim v = true) :
    Value.get c.payload name = .null := by
  unfold Value.get
  rw [lookup_payload, h, Option.filter_some, hempty]
  rfl

/-- A text of a payload is read. -/
theorem readText_payload {name s : String} (h : c.entries.lookup name = some (.text s)) :
    readText c.payload name = .ok s := by
  unfold readText
  by_cases hempty : s.isEmpty = true
  · rw [get_payload_of_isEmpty h hempty, String.isEmpty_iff.1 hempty]
  · rw [get_payload h (eq_false_of_ne_true hempty)]

/-- A date of a payload is read in whole seconds. -/
theorem readDate_payload {name : String} {date : Option Instant}
    (h : c.entries.lookup name = some (dateValue date)) :
    readDate c.payload name =
      .ok (date.map fun t => .whole t.seconds) := by
  unfold readDate
  cases date with
  | none =>
    rw [get_payload_of_isEmpty h rfl]
    rfl
  | some t =>
    rw [get_payload h rfl]
    rfl

theorem readAdmin_payload (c : Claims) :
    readAdmin c.payload = .ok c.isAdmin := by
  unfold readAdmin
  rw [lookup_payload]
  rfl

/-- The texts of a list are read. -/
theorem texts?_map_text (names : List String) : texts? (names.map .text) = some names := by
  induction names with
  | nil => rfl
  | cons name names ih =>
    show (texts? (names.map .text)).map _ = _
    rw [ih]
    rfl

/-- The audience of a payload is read; one of the empty text alone is left
out. -/
theorem readAudience_payload (c : Claims) :
    readAudience c.payload =
      .ok (if c.audience = [""] then [] else c.audience) := by
  have hlookup : c.entries.lookup "aud" = some (audienceValue c.audience) := rfl
  unfold readAudience
  cases haudience : c.audience with
  | nil =>
    rw [haudience] at hlookup
    rw [get_payload_of_isEmpty hlookup rfl]
    rfl
  | cons name names =>
    rw [haudience] at hlookup
    cases names with
    | nil =>
      -- One name is written as a text, which is left out if it is empty.
      by_cases hname : name = ""
      · rw [hname] at hlookup ⊢
        rw [get_payload_of_isEmpty hlookup rfl]
        rfl
      · have hkept : isEmptyClaim (audienceValue [name]) = false := by
          apply eq_false_of_ne_true
          intro hempty
          exact hname (String.isEmpty_iff.1 hempty)
        have hne : [name] ≠ [""] := fun h => hname (List.cons.inj h).1
        rw [get_payload hlookup hkept, if_neg hne]
        rfl
    | cons next names =>
      have hne : name :: next :: names ≠ [""] := fun h => nomatch (List.cons.inj h).2
      -- Two names or more are written as a list, which is never left out.
      have hvalue : audienceValue (name :: next :: names) =
          .list ((name :: next :: names).map .text) := rfl
      rw [get_payload hlookup rfl, if_neg hne, hvalue]
      dsimp only
      rw [texts?_map_text]

/-- **What claims become in a payload**: dates are cut to whole seconds, and claims
whose dates are then out of the calendar are none. -/
theorem ofFields_payload (c : Claims) :
    ofFields c.payload = do
      let expiresAt ← instantOf (.whole c.expiresAt.seconds)
      let issuedAt ← optionalInstant (c.issuedAt.map fun t => .whole t.seconds)
      let notBefore ← optionalInstant (c.notBefore.map fun t => .whole t.seconds)
      return {
        expiresAt, issuedAt, notBefore
        userId := c.userId
        username := c.username
        userEmail := c.userEmail
        isAdmin := c.isAdmin
        audience := if c.audience = [""] then [] else c.audience
        issuer := c.issuer
        tokenId := c.tokenId } := by
  unfold ofFields
  rw [readText_payload rfl, readText_payload rfl, readText_payload rfl, readText_payload rfl,
    readText_payload rfl, readDate_payload rfl, readDate_payload rfl, readDate_payload rfl,
    readAdmin_payload, readAudience_payload]
  rfl

/-! ### What is read under a name -/

theorem readText_eq_ok {s : String} :
    readText fields name = .ok s ↔ (Value.get fields name).Gives Value.Spells "" s := by
  unfold readText Value.Gives Value.Spells
  cases Value.get fields name <;> simp [eq_comm]

/-- A date that is read: none, or a number. -/
theorem readDate_eq_ok {date : Option Number.Quantity} :
    readDate fields name = .ok date ↔
      Value.get fields name = .null ∧ date = none ∨
        ∃ q, Value.get fields name = .ofQuantity q ∧ date = some q := by
  have hquantity : ∀ v : Value, (∃ q, v = .ofQuantity q ∧ date = some q) ↔
      (∃ n, v = .int n ∧ date = some (.whole n)) ∨
        ∃ x, v = .float x ∧ date = some (.fractional x) := by
    intro v
    constructor
    · rintro ⟨q, rfl, rfl⟩
      cases q with
      | whole n => exact .inl ⟨n, rfl, rfl⟩
      | fractional x => exact .inr ⟨x, rfl, rfl⟩
    · rintro (⟨n, rfl, rfl⟩ | ⟨x, rfl, rfl⟩)
      · exact ⟨.whole n, rfl, rfl⟩
      · exact ⟨.fractional x, rfl, rfl⟩
  rw [hquantity]
  unfold readDate
  cases Value.get fields name <;> simp [eq_comm]

theorem instantOf_eq_ok {q : Number.Quantity} {t : Instant} :
    instantOf q = .ok t ↔ Instant.ofQuantity? q = some t := by
  unfold instantOf
  cases Instant.ofQuantity? q <;> simp

/-- Whole numbers of seconds are read as the instants that they count to. -/
theorem instantOf_whole_eq_ok {n : Int} {t : Instant} :
    instantOf (.whole n) = .ok t ↔ Instant.ofSeconds? n = some t := instantOf_eq_ok

theorem optionalInstant_eq_ok {date : Option Number.Quantity} {t : Option Instant} :
    optionalInstant date = .ok t ↔
      date = none ∧ t = none ∨ ∃ q a, date = some q ∧ instantOf q = .ok a ∧ t = some a := by
  cases date with
  | none => simp [optionalInstant, eq_comm]
  | some q =>
    show (instantOf q).map some = .ok t ↔ _
    cases h : instantOf q with
    | error fault => simp [Except.map, h]
    | ok a => simp [Except.map, h, eq_comm]

theorem readAdmin_eq_ok {b : Bool} :
    readAdmin fields = .ok b ↔
      fields.lookup "is_admin" = none ∧ b = false ∨ fields.lookup "is_admin" = some (.bool b) := by
  unfold readAdmin
  cases fields.lookup "is_admin" with
  | none => simp [eq_comm]
  | some v => cases v <;> simp

/-- The texts of a list are spelt by its items, one by one. -/
theorem texts?_eq_some {items : List Value} {names : List String} :
    texts? items = some names ↔ List.Forall₂ Value.Spells items names := by
  induction items generalizing names with
  | nil => simp [texts?, eq_comm]
  | cons v items ih =>
    rw [List.forall₂_cons_left_iff]
    simp only [← ih]
    cases v <;> simp [texts?, Value.Spells, eq_comm (a := names)]

theorem readAudience_eq_ok {names : List String} :
    readAudience fields = .ok names ↔ (Value.get fields "aud").Gives Value.Lists [] names := by
  unfold readAudience Value.Gives Value.Lists
  simp only [← texts?_eq_some]
  cases Value.get fields "aud" with
  | list items =>
    dsimp only
    cases h : texts? items with
    | none => simp [Value.Spells, h]
    | some found => simp [Value.Spells, h, eq_comm]
  | _ => simp [Value.Spells, eq_comm]

/-- Claims that hold what is read under each name. -/
structure ReadOff (fields : List (String × Value)) (c : Claims) : Prop where
  userId : readText fields "user_id" = .ok c.userId
  username : readText fields "username" = .ok c.username
  userEmail : readText fields "user_email" = .ok c.userEmail
  issuer : readText fields "iss" = .ok c.issuer
  tokenId : readText fields "jti" = .ok c.tokenId
  expiresAt : ∃ date, readDate fields "exp" = .ok (some date) ∧ instantOf date = .ok c.expiresAt
  issuedAt : ∃ date, readDate fields "iat" = .ok date ∧ optionalInstant date = .ok c.issuedAt
  notBefore : ∃ date, readDate fields "nbf" = .ok date ∧ optionalInstant date = .ok c.notBefore
  isAdmin : readAdmin fields = .ok c.isAdmin
  audience : readAudience fields = .ok c.audience

/-- Claims are made of what is read under each name. -/
theorem ofFields_eq_ok : ofFields fields = .ok c ↔ ReadOff fields c := by
  constructor
  · intro h
    unfold ofFields at h
    obtain ⟨userId, hid, h⟩ := Except.bind_eq_ok.1 h
    obtain ⟨username, hname, h⟩ := Except.bind_eq_ok.1 h
    obtain ⟨userEmail, hemail, h⟩ := Except.bind_eq_ok.1 h
    obtain ⟨issuer, hissuer, h⟩ := Except.bind_eq_ok.1 h
    obtain ⟨tokenId, htoken, h⟩ := Except.bind_eq_ok.1 h
    obtain ⟨expiry?, hexpiry, h⟩ := Except.bind_eq_ok.1 h
    obtain ⟨issued, hissued, h⟩ := Except.bind_eq_ok.1 h
    obtain ⟨first, hfirst, h⟩ := Except.bind_eq_ok.1 h
    obtain ⟨expiry, hthere, h⟩ := Except.bind_eq_ok.1 h
    obtain ⟨isAdmin, hadmin, h⟩ := Except.bind_eq_ok.1 h
    obtain ⟨audience, haudience, h⟩ := Except.bind_eq_ok.1 h
    obtain ⟨expiresAt, hend, h⟩ := Except.bind_eq_ok.1 h
    obtain ⟨issuedAt, hstart, h⟩ := Except.bind_eq_ok.1 h
    obtain ⟨notBefore, hopen, h⟩ := Except.bind_eq_ok.1 h
    obtain rfl := Except.ok.inj h
    have hdate : ∃ date, readDate fields "exp" = .ok (some date) ∧
        instantOf date = .ok expiresAt := by
      cases expiry? with
      | none => cases hthere
      | some date =>
        obtain rfl : date = expiry := Except.ok.inj hthere
        exact ⟨date, hexpiry, hend⟩
    exact ⟨hid, hname, hemail, hissuer, htoken, hdate, ⟨issued, hissued, hstart⟩,
      ⟨first, hfirst, hopen⟩, hadmin, haudience⟩
  · rintro ⟨hid, hname, hemail, hissuer, htoken, ⟨expiry, hexpiry, hend⟩,
      ⟨issued, hissued, hstart⟩, ⟨first, hfirst, hopen⟩, hadmin, haudience⟩
    unfold ofFields
    rw [hid, hname, hemail, hissuer, htoken, hexpiry, hissued, hfirst, hadmin, haudience]
    show (instantOf expiry >>= fun _ => optionalInstant issued >>= fun _ =>
      optionalInstant first >>= fun _ => _) = _
    rw [hend, hstart, hopen]
    rfl

end Claims

end Guildhall
