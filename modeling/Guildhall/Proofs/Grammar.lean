/-
Guildhall/Proofs/Grammar.lean

Which payloads hold claims, and which claims.  `Claims.Grammatical` says of the ten fields
what each has to be, and `Claims.SuppliedBy` says of claims what each of their fields is
taken from: the value of a name, or an empty default if it is null or missing.  The two
meet in `payload_grammar`, for payloads whose dates are no floating-point numbers; what is
refused has a fault that blames something wrong in it (`ClaimsFault.Blames`), and names
other than the ten never matter.

Claims that come from whole dates are written and read back without loss, but for an
audience of the empty text alone (`payload_round_trip`).

Main statements: `Claims.ofFields_eq_ok_iff_suppliedBy`, `Claims.only_blames_ofFields`,
`Claims.payload_grammar` and `Claims.payload_round_trip`.
-/
import Guildhall.Proofs.Stopping
import Guildhall.Proofs.Verification

namespace Guildhall

/-! ### Whole dates -/

namespace Value

variable {v : Value}

/-- A whole number of seconds within the years 1 to 9999, and the instant that it counts
to. -/
def CountsTo (v : Value) (t : Instant) : Prop :=
  ∃ n, v = .int n ∧ Instant.firstSecond ≤ n ∧ n ≤ Instant.lastSecond ∧ t = ⟨n * 1000000⟩

/-- A date that is there, and the instant that it counts to. -/
def Dates (v : Value) (date : Option Instant) : Prop := ∃ t, v.CountsTo t ∧ date = some t

/-- A whole number of seconds within the years 1 to 9999. -/
def IsWholeDate (v : Value) : Prop :=
  ∃ n, v = .int n ∧ Instant.firstSecond ≤ n ∧ n ≤ Instant.lastSecond

/-- The instants that whole numbers stand for are those that the calendar finds. -/
theorem countsTo_iff (hwhole : ∀ x, v ≠ .float x) {t : Instant} :
    v.CountsTo t ↔ ∃ q, v = .ofQuantity q ∧ Instant.ofQuantity? q = some t := by
  constructor
  · rintro ⟨n, rfl, hfirst, hlast, rfl⟩
    exact ⟨.whole n, rfl, Instant.ofSeconds?_eq_some.2 ⟨hfirst, hlast, rfl⟩⟩
  · rintro ⟨q, rfl, h⟩
    cases q with
    | whole n => exact ⟨n, rfl, Instant.ofSeconds?_eq_some.1 h⟩
    | fractional x => exact absurd rfl (hwhole x)

theorem isDate_iff_isWholeDate (hwhole : ∀ x, v ≠ .float x) : v.IsDate ↔ v.IsWholeDate := by
  calc
    _ ↔ ∃ t, ∃ q, v = .ofQuantity q ∧ Instant.ofQuantity? q = some t := exists_comm
    _ ↔ ∃ t, v.CountsTo t := exists_congr fun t => (countsTo_iff hwhole).symm
    _ ↔ _ := by
      constructor
      · rintro ⟨-, n, hv, hfirst, hlast, -⟩
        exact ⟨n, hv, hfirst, hlast⟩
      · rintro ⟨n, hv, hfirst, hlast⟩
        exact ⟨_, n, hv, hfirst, hlast, rfl⟩

/-- What a number counts to starts a second. -/
theorem CountsTo.isWhole {t : Instant} (h : v.CountsTo t) : t.IsWhole := by
  obtain ⟨n, -, hfirst, hlast, rfl⟩ := h
  refine Instant.isWhole_of_mod (Int.mul_emod_left n 1000000) ?_
  exact Instant.inCalendar_of_ofMicros? (Instant.ofSeconds?_eq_some.2 ⟨hfirst, hlast, rfl⟩)

end Value

namespace Claims

variable {fields : List (String × Value)} {name : String} {c : Claims}

/-! ### Dates that are read -/

/-- The expiry is the instant that a number counts to. -/
theorem exists_readDate_some_iff (hwhole : ∀ x, Value.get fields name ≠ .float x) {t : Instant} :
    (∃ date, readDate fields name = .ok (some date) ∧ instantOf date = .ok t) ↔
      (Value.get fields name).CountsTo t := by
  rw [Value.countsTo_iff hwhole]
  refine exists_congr fun q => and_congr ?_ instantOf_eq_ok
  rw [readDate_eq_ok]
  simp

/-- Any other date may be missing. -/
theorem exists_readDate_iff_gives (hwhole : ∀ x, Value.get fields name ≠ .float x)
    {t : Option Instant} :
    (∃ date, readDate fields name = .ok date ∧ optionalInstant date = .ok t) ↔
      (Value.get fields name).Gives Value.Dates none t := by
  simp only [Value.Gives, Value.Dates, ← exists_readDate_some_iff hwhole, optionalInstant_eq_ok]
  constructor
  · rintro ⟨date, hdate, ⟨rfl, rfl⟩ | ⟨q, a, rfl, ha, rfl⟩⟩
    · rcases readDate_eq_ok.1 hdate with ⟨hnull, -⟩ | ⟨q, -, hnone⟩
      · exact .inl ⟨hnull, rfl⟩
      · cases hnone
    · exact .inr ⟨a, ⟨q, hdate, ha⟩, rfl⟩
  · rintro (⟨hnull, rfl⟩ | ⟨a, ⟨q, hdate, ha⟩, rfl⟩)
    · exact ⟨none, readDate_eq_ok.2 (.inl ⟨hnull, rfl⟩), .inl ⟨rfl, rfl⟩⟩
    · exact ⟨some q, hdate, .inr ⟨q, a, rfl, ha, rfl⟩⟩

/-! ### The claims of a payload -/

/-- Claims that are made of what each name supplies. -/
structure SuppliedBy (fields : List (String × Value)) (c : Claims) : Prop where
  userId : (Value.get fields "user_id").Gives Value.Spells "" c.userId
  username : (Value.get fields "username").Gives Value.Spells "" c.username
  userEmail : (Value.get fields "user_email").Gives Value.Spells "" c.userEmail
  issuer : (Value.get fields "iss").Gives Value.Spells "" c.issuer
  tokenId : (Value.get fields "jti").Gives Value.Spells "" c.tokenId
  expiresAt : (Value.get fields "exp").CountsTo c.expiresAt
  issuedAt : (Value.get fields "iat").Gives Value.Dates none c.issuedAt
  notBefore : (Value.get fields "nbf").Gives Value.Dates none c.notBefore
  isAdmin : fields.lookup "is_admin" = none ∧ c.isAdmin = false ∨
    fields.lookup "is_admin" = some (.bool c.isAdmin)
  audience : (Value.get fields "aud").Gives Value.Lists [] c.audience

/-- The names of the claims that are texts. -/
def textNames : List String := ["user_id", "username", "user_email", "iss", "jti"]

/-- The names of the claims that are dates. -/
def dateNames : List String := ["exp", "iat", "nbf"]

/-- Fields that have the shapes of claims.  The expiry has to be there, and the flag of an
administrator may be missing but not null; everything else may be either. -/
structure Grammatical (fields : List (String × Value)) : Prop where
  texts : ∀ name ∈ textNames, Value.get fields name = .null ∨ (Value.get fields name).IsText
  expiry : (Value.get fields "exp").IsWholeDate
  dates : ∀ name ∈ ["iat", "nbf"],
    Value.get fields name = .null ∨ (Value.get fields name).IsWholeDate
  admin : ∀ v ∈ fields.lookup "is_admin", ∃ b, v = .bool b
  audience : Value.get fields "aud" = .null ∨ (Value.get fields "aud").IsText ∨
    ∃ items, Value.get fields "aud" = .list items ∧ ∀ v ∈ items, v.IsText

section Whole

variable (hwhole : ∀ name ∈ dateNames, ∀ x, Value.get fields name ≠ .float x)
include hwhole

/-- Claims are read from a payload if it supplies them. -/
theorem ofFields_eq_ok_iff_suppliedBy : ofFields fields = .ok c ↔ SuppliedBy fields c := by
  rw [ofFields_eq_ok]
  have hexpiry := exists_readDate_some_iff (hwhole "exp" (by decide)) (t := c.expiresAt)
  have hissued := exists_readDate_iff_gives (hwhole "iat" (by decide)) (t := c.issuedAt)
  have hfirst := exists_readDate_iff_gives (hwhole "nbf" (by decide)) (t := c.notBefore)
  constructor
  · intro h
    exact
      { userId := readText_eq_ok.1 h.userId
        username := readText_eq_ok.1 h.username
        userEmail := readText_eq_ok.1 h.userEmail
        issuer := readText_eq_ok.1 h.issuer
        tokenId := readText_eq_ok.1 h.tokenId
        expiresAt := hexpiry.1 h.expiresAt
        issuedAt := hissued.1 h.issuedAt
        notBefore := hfirst.1 h.notBefore
        isAdmin := readAdmin_eq_ok.1 h.isAdmin
        audience := readAudience_eq_ok.1 h.audience }
  · intro h
    exact
      { userId := readText_eq_ok.2 h.userId
        username := readText_eq_ok.2 h.username
        userEmail := readText_eq_ok.2 h.userEmail
        issuer := readText_eq_ok.2 h.issuer
        tokenId := readText_eq_ok.2 h.tokenId
        expiresAt := hexpiry.2 h.expiresAt
        issuedAt := hissued.2 h.issuedAt
        notBefore := hfirst.2 h.notBefore
        isAdmin := readAdmin_eq_ok.2 h.isAdmin
        audience := readAudience_eq_ok.2 h.audience }

/-- Fields have the types of claims if they have their shapes. -/
theorem typed_iff_grammatical : Typed fields ↔ Grammatical fields := by
  have hexpiry := Value.isDate_iff_isWholeDate (hwhole "exp" (by decide))
  have hdates : ∀ name ∈ ["iat", "nbf"],
      ((Value.get fields name).IsDate ↔ (Value.get fields name).IsWholeDate) := by
    intro name hname
    exact Value.isDate_iff_isWholeDate (hwhole name (List.mem_cons_of_mem _ hname))
  constructor
  · intro h
    exact ⟨h.texts, hexpiry.1 h.expiry,
      fun name hname => (h.dates name hname).imp_right (hdates name hname).1, h.admin, h.audience⟩
  · intro h
    exact ⟨h.texts, hexpiry.2 h.expiry,
      fun name hname => (h.dates name hname).imp_right (hdates name hname).2, h.admin, h.audience⟩

end Whole

end Claims

/-! ### Faults -/

/-- What each fault finds wrong in a payload. -/
inductive ClaimsFault.Blames : ClaimsFault → Value → Prop
  | notAnObject {p : Value} : (∀ fields, p ≠ .object fields) → Blames .notAnObject p
  | notText {fields : List (String × Value)} {name : String} : name ∈ Claims.textNames →
      Value.get fields name ≠ .null → ¬(Value.get fields name).IsText →
      Blames (.notText name) (.object fields)
  | notADate {fields : List (String × Value)} {name : String} : name ∈ Claims.dateNames →
      Value.get fields name ≠ .null → (∀ q, Value.get fields name ≠ .ofQuantity q) →
      Blames (.notADate name) (.object fields)
  | expiryMissing {fields : List (String × Value)} : Value.get fields "exp" = .null →
      Blames .expiryMissing (.object fields)
  | adminNotABoolean {fields : List (String × Value)} {v : Value} :
      fields.lookup "is_admin" = some v → (∀ b, v ≠ .bool b) →
      Blames .adminNotABoolean (.object fields)
  | badAudience {fields : List (String × Value)} : Value.get fields "aud" ≠ .null →
      (∀ names, ¬(Value.get fields "aud").Lists names) → Blames .badAudience (.object fields)
  | dateOutOfRange {fields : List (String × Value)} {name : String} {q : Number.Quantity} :
      name ∈ Claims.dateNames → Value.get fields name = .ofQuantity q →
      Instant.ofQuantity? q = none → Blames .dateOutOfRange (.object fields)

namespace Claims

variable {fields other : List (String × Value)} {name : String} {c : Claims}

theorem only_blames_readText (hname : name ∈ textNames) :
    Except.Only (·.Blames (.object fields)) (readText fields name) := by
  intro fault h
  have hnone : ∀ s, ¬(Value.get fields name).Gives Value.Spells "" s :=
    fun s hs => nomatch h.symm.trans (readText_eq_ok.2 hs)
  obtain rfl : fault = .notText name := by
    unfold readText at h
    split at h <;> cases h
    rfl
  apply ClaimsFault.Blames.notText hname
  · exact fun hnull => hnone "" (.inl ⟨hnull, rfl⟩)
  · exact fun ⟨s, hs⟩ => hnone s (.inr hs)

theorem only_blames_readDate (hname : name ∈ dateNames) :
    Except.Only (·.Blames (.object fields)) (readDate fields name) := by
  intro fault h
  have hnone : ∀ date, readDate fields name ≠ .ok date :=
    fun date hdate => nomatch h.symm.trans hdate
  obtain rfl : fault = .notADate name := by
    unfold readDate at h
    split at h <;> cases h
    rfl
  apply ClaimsFault.Blames.notADate hname
  · exact fun hnull => hnone none (readDate_eq_ok.2 (.inl ⟨hnull, rfl⟩))
  · exact fun q hq => hnone (some q) (readDate_eq_ok.2 (.inr ⟨q, hq, rfl⟩))

/-- The expiry is asked for once the dates have been looked at. -/
theorem only_blames_expiry {date : Option Number.Quantity}
    (hread : readDate fields "exp" = .ok date) :
    Except.Only (·.Blames (.object fields))
      (date.elim (.error .expiryMissing) .ok : Except ClaimsFault Number.Quantity) := by
  rcases readDate_eq_ok.1 hread with ⟨hnull, rfl⟩ | ⟨q, -, rfl⟩
  · exact .error (.expiryMissing hnull)
  · exact .ok

theorem only_blames_readAdmin :
    Except.Only (·.Blames (.object fields)) (readAdmin fields) := by
  unfold readAdmin
  split
  · exact .ok
  · exact .ok
  · rename_i v hbool hlookup
    exact .error (.adminNotABoolean hlookup hbool)

theorem only_blames_readAudience :
    Except.Only (·.Blames (.object fields)) (readAudience fields) := by
  intro fault h
  have hnone : ∀ names, ¬(Value.get fields "aud").Gives Value.Lists [] names :=
    fun names hnames => nomatch h.symm.trans (readAudience_eq_ok.2 hnames)
  obtain rfl : fault = .badAudience := by
    unfold readAudience at h
    split at h
    case h_4 => split at h <;> cases h; rfl
    all_goals cases h
    rfl
  apply ClaimsFault.Blames.badAudience
  · exact fun hnull => hnone [] (.inl ⟨hnull, rfl⟩)
  · exact fun names hnames => hnone names (.inr hnames)

theorem only_blames_instantOf {q : Number.Quantity} (hname : name ∈ dateNames)
    (hread : readDate fields name = .ok (some q)) :
    Except.Only (·.Blames (.object fields)) (instantOf q) := by
  obtain ⟨-, hnone⟩ | ⟨q', hq, hsome⟩ := readDate_eq_ok.1 hread
  · cases hnone
  · obtain rfl := Option.some.inj hsome
    unfold instantOf
    cases hinstant : Instant.ofQuantity? q with
    | none => exact .error (.dateOutOfRange hname hq hinstant)
    | some t => exact .ok

theorem only_blames_optionalInstant {date : Option Number.Quantity} (hname : name ∈ dateNames)
    (hread : readDate fields name = .ok date) :
    Except.Only (·.Blames (.object fields)) (optionalInstant date) := by
  cases date with
  | none => exact .ok
  | some q =>
    show Except.Only _ ((instantOf q).map some)
    have hinstant := only_blames_instantOf hname hread
    cases h : instantOf q with
    | error fault => exact .error (hinstant fault h)
    | ok t => exact .ok

/-- **A fault blames what is wrong.** -/
theorem only_blames_ofFields : Except.Only (·.Blames (.object fields)) (ofFields fields) := by
  unfold ofFields
  -- The texts are looked at first, and then the shapes of the dates.
  refine (only_blames_readText (by decide)).bind fun userId _ => ?_
  refine (only_blames_readText (by decide)).bind fun username _ => ?_
  refine (only_blames_readText (by decide)).bind fun userEmail _ => ?_
  refine (only_blames_readText (by decide)).bind fun issuer _ => ?_
  refine (only_blames_readText (by decide)).bind fun tokenId _ => ?_
  refine (only_blames_readDate (by decide)).bind fun expiry? hexpiry => ?_
  refine (only_blames_readDate (by decide)).bind fun issued hissued => ?_
  refine (only_blames_readDate (by decide)).bind fun first hfirst => ?_
  refine (only_blames_expiry hexpiry).bind fun expiry hthere => ?_
  obtain rfl : expiry? = some expiry := by
    cases expiry? with
    | none => cases hthere
    | some date => exact congrArg some (Except.ok.inj hthere)
  refine only_blames_readAdmin.bind fun isAdmin _ => ?_
  refine only_blames_readAudience.bind fun audience _ => ?_
  -- The dates themselves come last.
  refine (only_blames_instantOf (by decide) hexpiry).bind fun expiresAt _ => ?_
  refine (only_blames_optionalInstant (by decide) hissued).bind fun issuedAt _ => ?_
  refine (only_blames_optionalInstant (by decide) hfirst).bind fun notBefore _ => ?_
  exact .ok

theorem only_blames_ofPayload {p : Value} : Except.Only (·.Blames p) (ofPayload p) := by
  cases p with
  | object fields => exact only_blames_ofFields
  | _ => exact .error (.notAnObject nofun)

/-- Only the ten names matter. -/
theorem ofFields_congr (h : ∀ name ∈ names, other.lookup name = fields.lookup name) :
    ofFields other = ofFields fields := by
  have hget : ∀ name ∈ names, Value.get other name = Value.get fields name :=
    fun name hname => congrArg (·.getD .null) (h name hname)
  have htext : ∀ name ∈ names, readText other name = readText fields name := by
    intro name hname
    unfold readText
    rw [hget name hname]
  have hdate : ∀ name ∈ names, readDate other name = readDate fields name := by
    intro name hname
    unfold readDate
    rw [hget name hname]
  have hadmin : readAdmin other = readAdmin fields := by
    unfold readAdmin
    rw [h "is_admin" (by decide)]
  have haudience : readAudience other = readAudience fields := by
    unfold readAudience
    rw [hget "aud" (by decide)]
  unfold ofFields
  rw [htext "user_id" (by decide), htext "username" (by decide), htext "user_email" (by decide),
    htext "iss" (by decide), htext "jti" (by decide), hdate "exp" (by decide),
    hdate "iat" (by decide), hdate "nbf" (by decide), hadmin, haudience]

/-! ### The grammar -/

/-- **Claims are read from the payloads of a grammar** and from no others, for every value
whose dates are no floating-point numbers.  They are made of what the payload supplies, with
an empty default for what it does not; everything else is refused with a fault that blames
something wrong in it; and names other than those of claims never matter. -/
theorem payload_grammar (p : Value)
    (hwhole : ∀ name ∈ dateNames, ∀ x, Value.get p.fields name ≠ .float x) :
    ((∃ c, ofPayload p = .ok c) ↔ ∃ fields, p = .object fields ∧ Grammatical fields) ∧
      (∀ c, ofPayload p = .ok c ↔ ∃ fields, p = .object fields ∧ SuppliedBy fields c) ∧
      ((¬∃ fields, p = .object fields ∧ Grammatical fields) →
        ∃ fault, ofPayload p = .error fault ∧ fault.Blames p) ∧
      ∀ fields other, p = .object fields →
        (∀ name ∈ names, other.lookup name = fields.lookup name) →
        ofPayload (.object other) = ofPayload p := by
  have haccepts : (∃ c, ofPayload p = .ok c) ↔
      ∃ fields, p = .object fields ∧ Grammatical fields := by
    cases p with
    | object fields =>
      have hshapes : Typed fields ↔ Grammatical fields := typed_iff_grammatical hwhole
      simp only [Value.object.injEq, exists_eq_left', ← hshapes]
      exact exists_ofFields_iff
    | _ => exact iff_of_false (fun ⟨_, h⟩ => nomatch h) (fun ⟨_, h, _⟩ => nomatch h)
  refine ⟨haccepts, fun c => ?_, fun hnone => ?_, ?_⟩
  · cases p with
    | object fields =>
      simp only [Value.object.injEq, exists_eq_left']
      exact ofFields_eq_ok_iff_suppliedBy hwhole
    | _ => exact iff_of_false nofun (fun ⟨_, h, _⟩ => nomatch h)
  · cases hresult : ofPayload p with
    | ok c => exact absurd (haccepts.1 ⟨c, hresult⟩) hnone
    | error fault => exact ⟨fault, rfl, only_blames_ofPayload fault hresult⟩
  · rintro fields other rfl h
    exact ofFields_congr h

/-- A payload with a flag of any shape, and a name that means nothing. -/
def pass (flag : Value) : List (String × Value) :=
  [("exp", .int (-1)), ("iat", .null), ("is_admin", flag), ("aud", .list [.text "", .text "svc"]),
    ("role", .list [.null])]

/-- The claims of a pass whose flag is set. -/
def passClaims : Claims :=
  { expiresAt := ⟨-1000000⟩, isAdmin := true, audience := ["", "svc"] }

theorem pass_ne_float (flag : Value) :
    ∀ name ∈ dateNames, ∀ x, Value.get (pass flag) name ≠ .float x := by
  intro name hname x
  simp only [dateNames, List.mem_cons, List.not_mem_nil, or_false] at hname
  rcases hname with rfl | rfl | rfl <;> nofun

/-- The flag of an administrator is a truth value; one is none. -/
theorem payload_grammar_pass :
    ofPayload (.object (pass (.bool true))) = .ok passClaims ∧
      ∃ fault, ofPayload (.object (pass (.int 1))) = .error fault ∧
        fault.Blames (.object (pass (.int 1))) := by
  obtain ⟨-, hsupplied, -, -⟩ := payload_grammar (.object (pass (.bool true))) (pass_ne_float _)
  obtain ⟨-, -, hrefused, -⟩ := payload_grammar (.object (pass (.int 1))) (pass_ne_float _)
  refine ⟨(hsupplied _).2 ⟨_, rfl, ?_⟩, hrefused ?_⟩
  · exact
      { userId := .inl ⟨rfl, rfl⟩
        username := .inl ⟨rfl, rfl⟩
        userEmail := .inl ⟨rfl, rfl⟩
        issuer := .inl ⟨rfl, rfl⟩
        tokenId := .inl ⟨rfl, rfl⟩
        expiresAt := ⟨-1, rfl, by decide, by decide, rfl⟩
        issuedAt := .inl ⟨rfl, rfl⟩
        notBefore := .inl ⟨rfl, rfl⟩
        isAdmin := .inr rfl
        audience := .inr (.inr ⟨_, rfl, .cons (.inl rfl) (.cons (.inl rfl) .nil)⟩) }
  · rintro ⟨fields, hfields, h⟩
    cases hfields
    obtain ⟨b, hb⟩ := h.admin (.int 1) rfl
    cases hb

/-! ### Writing and reading again -/

/-- Nothing in a payload is empty. -/
theorem not_isEmptyClaim_of_mem {entry : String × Value} (h : entry ∈ c.payload) :
    entry.2 ≠ .null ∧ entry.2 ≠ .text "" ∧ entry.2 ≠ .list [] := by
  have hkept : (!isEmptyClaim entry.2) = true := (List.mem_filter.1 h).2
  refine ⟨?_, ?_, ?_⟩
  all_goals
    intro heq
    rw [heq] at hkept
    cases hkept

/-- Claims that are made of whole dates have whole dates. -/
theorem SuppliedBy.wholeDates (h : SuppliedBy fields c) : c.WholeDates := by
  have hdates : ∀ {v : Value} {date : Option Instant}, v.Gives Value.Dates none date →
      ∀ t ∈ date, t.IsWhole := by
    rintro v date (⟨-, rfl⟩ | ⟨a, ha, rfl⟩) t ht
    · cases ht
    · exact Option.some.inj ht ▸ ha.isWhole
  exact ⟨h.expiresAt.isWhole, hdates h.issuedAt, hdates h.notBefore⟩

/-- The audience is the empty text alone only if the payload says so. -/
theorem SuppliedBy.audience_ne (h : SuppliedBy fields c)
    (haudience : ∀ v : Value, v.Spells "" →
      Value.get fields "aud" ≠ v ∧ Value.get fields "aud" ≠ .list [v]) :
    c.audience ≠ [""] := by
  intro hempty
  have hlists := h.audience
  rw [hempty] at hlists
  rcases hlists with ⟨-, hnil⟩ | ⟨s, hspells, hs⟩ | ⟨items, hitems, hspells⟩
  · cases hnil
  · obtain rfl : "" = s := (List.cons.inj hs).1
    exact (haudience _ hspells).1 rfl
  · obtain ⟨v, rest, hv, hrest, rfl⟩ := List.forall₂_cons_right_iff.1 hspells
    obtain rfl := List.forall₂_nil_right_iff.1 hrest
    exact (haudience v hv).2 hitems

/-- **Claims are written and read again without loss.**  Nothing in a payload is empty, and
it always has an expiry and the flag of an administrator.  Claims with whole dates are read
back as they were written, but for an audience of the empty text alone, which comes back as
none; so writing claims that were read, and reading them again, changes nothing. -/
theorem payload_round_trip (c : Claims) :
    (∀ entry ∈ c.payload, entry.2 ≠ .null ∧ entry.2 ≠ .text "" ∧ entry.2 ≠ .list []) ∧
      c.payload.lookup "is_admin" = some (.bool c.isAdmin) ∧
      c.payload.lookup "exp" = some (.int c.expiresAt.seconds) ∧
      (c.WholeDates →
        ofPayload (.object c.payload) =
          .ok { c with audience := if c.audience = [""] then [] else c.audience }) ∧
      ∀ p : Value, (∀ name ∈ dateNames, ∀ x, Value.get p.fields name ≠ .float x) →
        (∀ v : Value, v.Spells "" →
          Value.get p.fields "aud" ≠ v ∧ Value.get p.fields "aud" ≠ .list [v]) →
        ofPayload p = .ok c → ofPayload (.object c.payload) = ofPayload p := by
  refine ⟨fun entry => not_isEmptyClaim_of_mem, ?_, ?_, WholeDates.ofFields_payload, ?_⟩
  · rw [lookup_payload]
    rfl
  · rw [lookup_payload]
    rfl
  · intro p hwhole haudience h
    cases p with
    | object fields =>
      have hsupplied : SuppliedBy fields c := (ofFields_eq_ok_iff_suppliedBy hwhole).1 h
      rw [h]
      show ofFields c.payload = _
      rw [hsupplied.wholeDates.ofFields_payload, if_neg (hsupplied.audience_ne haudience)]
    | _ => cases h

/-- Claims of nobody, which expire at the start of 1970. -/
def nobody : Claims := { expiresAt := ⟨0⟩, audience := [""] }

/-- The claims of nobody lose their audience, and keep their flag and their expiry; those
of a pass lose nothing. -/
theorem payload_round_trip_nobody :
    nobody.WholeDates ∧
      ofPayload (.object nobody.payload) = .ok { nobody with audience := [] } ∧
      nobody.payload.lookup "is_admin" = some (.bool false) ∧
      nobody.payload.lookup "exp" = some (.int 0) ∧
      ofPayload (.object (pass (.bool true))) = .ok passClaims ∧
      ofPayload (.object passClaims.payload) = ofPayload (.object (pass (.bool true))) := by
  have hwhole : nobody.WholeDates := ⟨⟨rfl, by decide⟩, nofun, nofun⟩
  have hzero : nobody.expiresAt.seconds = 0 := by decide +kernel
  have haccepted : ofPayload (.object (pass (.bool true))) = .ok passClaims := rfl
  obtain ⟨-, hadmin, hexpiry, hback, -⟩ := payload_round_trip nobody
  obtain ⟨-, -, -, -, hagain⟩ := payload_round_trip passClaims
  refine ⟨hwhole, hback hwhole, hadmin, hzero ▸ hexpiry, haccepted, ?_⟩
  refine hagain (.object (pass (.bool true))) (pass_ne_float _) ?_ haccepted
  rintro v (rfl | rfl) <;> exact ⟨nofun, nofun⟩

end Claims

end Guildhall
