/-
Guildhall/Proofs/Verification.lean

Which tokens are accepted, by algorithms that sign with a shared secret or do not
sign at all.  A decoder that checks signatures accepts what a decoder that checks none
accepts, with the same claims, if besides

* the key is no written form of another key (`Secret.mistaken?`),
* the header names one of the algorithms of the decoder, and that is one which
  signs with a shared secret,
* the last segment is the keyed digest of the text before the last point, and
* the subject and the id of the token are texts, if they are there,

and it accepts nothing else (`verified_decode_iff`).  So a token without a
signature is never accepted, whatever algorithms the decoder has.

What is left to the claims is a matter of their types (`Claims.Typed`).  No clock is
asked, and no audience or issuer compared.

Main statements: `Claims.exists_ofFields_iff`, `decode_eq_ok`, `judge_eq_ok` and
`verified_decode_iff`.
-/
import Guildhall.Proofs.RoundTrip

namespace Guildhall

open Codec

/-! ### Types of claims -/

/-- A text, whole or torn. -/
def Value.IsText (v : Value) : Prop := ∃ s, v = .text s ∨ v = .torn s

/-- A number that counts the seconds to an instant of the calendar. -/
def Value.IsDate (v : Value) : Prop :=
  ∃ q t, v = .ofQuantity q ∧ Instant.ofQuantity? q = some t

namespace Claims

variable {fields : List (String × Value)} {name : String} {c : Claims}

/-- Fields that have the types of claims: only the expiry has to be there. -/
structure Typed (fields : List (String × Value)) : Prop where
  texts : ∀ name ∈ ["user_id", "username", "user_email", "iss", "jti"],
    Value.get fields name = .null ∨ (Value.get fields name).IsText
  expiry : (Value.get fields "exp").IsDate
  dates : ∀ name ∈ ["iat", "nbf"],
    Value.get fields name = .null ∨ (Value.get fields name).IsDate
  admin : ∀ v ∈ fields.lookup "is_admin", ∃ b, v = .bool b
  audience : Value.get fields "aud" = .null ∨ (Value.get fields "aud").IsText ∨
    ∃ items, Value.get fields "aud" = .list items ∧ ∀ v ∈ items, v.IsText

theorem exists_readText_iff :
    (∃ s, readText fields name = .ok s) ↔
      Value.get fields name = .null ∨ (Value.get fields name).IsText := by
  simp [readText_eq_ok, Value.Gives, Value.IsText, Value.Spells, exists_or]

/-- A date that may be missing has a type, and an instant if it is there. -/
theorem exists_readDate_iff :
    (∃ date t, readDate fields name = .ok date ∧ optionalInstant date = .ok t) ↔
      Value.get fields name = .null ∨ (Value.get fields name).IsDate := by
  constructor
  · rintro ⟨date, t, hdate, ht⟩
    rcases readDate_eq_ok.1 hdate with ⟨hnull, -⟩ | ⟨q, hq, rfl⟩
    · exact .inl hnull
    · rcases optionalInstant_eq_ok.1 ht with ⟨hnone, -⟩ | ⟨q', a, hsome, ha, -⟩
      · cases hnone
      · obtain rfl := Option.some.inj hsome
        exact .inr ⟨q, a, hq, instantOf_eq_ok.1 ha⟩
  · rintro (hnull | ⟨q, a, hq, ha⟩)
    · exact ⟨none, none, readDate_eq_ok.2 (.inl ⟨hnull, rfl⟩), rfl⟩
    · exact ⟨some q, some a, readDate_eq_ok.2 (.inr ⟨q, hq, rfl⟩),
        optionalInstant_eq_ok.2 (.inr ⟨q, a, rfl, instantOf_eq_ok.2 ha, rfl⟩)⟩

theorem exists_readAdmin_iff :
    (∃ b, readAdmin fields = .ok b) ↔ ∀ v ∈ fields.lookup "is_admin", ∃ b, v = .bool b := by
  simp only [readAdmin_eq_ok]
  cases fields.lookup "is_admin" <;> simp

/-- The items of a list spell something if they are texts. -/
theorem exists_forall₂_spells_iff {items : List Value} :
    (∃ names, List.Forall₂ Value.Spells items names) ↔ ∀ v ∈ items, v.IsText := by
  induction items with
  | nil => simp
  | cons v items ih =>
    rw [List.forall_mem_cons, ← ih]
    simp only [List.forall₂_cons_left_iff]
    constructor
    · rintro ⟨-, s, names, hs, hnames, -⟩
      exact ⟨⟨s, hs⟩, names, hnames⟩
    · rintro ⟨⟨s, hs⟩, names, hnames⟩
      exact ⟨_, s, names, hs, hnames, rfl⟩

theorem exists_readAudience_iff :
    (∃ names, readAudience fields = .ok names) ↔
      Value.get fields "aud" = .null ∨ (Value.get fields "aud").IsText ∨
        ∃ items, Value.get fields "aud" = .list items ∧ ∀ v ∈ items, v.IsText := by
  simp only [readAudience_eq_ok, ← exists_forall₂_spells_iff]
  constructor
  · rintro ⟨names, ⟨hnull, -⟩ | ⟨s, hs, -⟩ | ⟨items, hitems, hspells⟩⟩
    · exact .inl hnull
    · exact .inr (.inl ⟨s, hs⟩)
    · exact .inr (.inr ⟨items, hitems, names, hspells⟩)
  · rintro (hnull | ⟨s, hs⟩ | ⟨items, hitems, names, hspells⟩)
    · exact ⟨[], .inl ⟨hnull, rfl⟩⟩
    · exact ⟨[s], .inr (.inl ⟨s, hs, rfl⟩)⟩
    · exact ⟨names, .inr (.inr ⟨items, hitems, hspells⟩)⟩

/-- **Fields are claims if they have their types**, whatever their values are. -/
theorem exists_ofFields_iff : (∃ c, ofFields fields = .ok c) ↔ Typed fields := by
  constructor
  · rintro ⟨c, h⟩
    have hread := ofFields_eq_ok.1 h
    obtain ⟨date, hexpiry, hend⟩ := hread.expiresAt
    obtain ⟨issued, hissued, hstart⟩ := hread.issuedAt
    obtain ⟨first, hfirst, hopen⟩ := hread.notBefore
    exact
      { texts := by
          simp only [List.forall_mem_cons, ← exists_readText_iff]
          exact ⟨⟨_, hread.userId⟩, ⟨_, hread.username⟩, ⟨_, hread.userEmail⟩, ⟨_, hread.issuer⟩,
            ⟨_, hread.tokenId⟩, nofun⟩
        expiry := by
          rcases readDate_eq_ok.1 hexpiry with ⟨-, hnone⟩ | ⟨q, hq, hsome⟩
          · cases hnone
          · obtain rfl := Option.some.inj hsome
            exact ⟨date, c.expiresAt, hq, instantOf_eq_ok.1 hend⟩
        dates := by
          simp only [List.forall_mem_cons, ← exists_readDate_iff]
          exact ⟨⟨_, _, hissued, hstart⟩, ⟨_, _, hfirst, hopen⟩, nofun⟩
        admin := exists_readAdmin_iff.1 ⟨_, hread.isAdmin⟩
        audience := exists_readAudience_iff.1 ⟨_, hread.audience⟩ }
  · rintro ⟨htexts, ⟨q, expiresAt, hexpiry, hend⟩, hdates, hadmin, haudience⟩
    simp only [List.forall_mem_cons, ← exists_readText_iff] at htexts
    simp only [List.forall_mem_cons, ← exists_readDate_iff] at hdates
    obtain ⟨⟨userId, hid⟩, ⟨username, hname⟩, ⟨userEmail, hemail⟩, ⟨issuer, hissuer⟩,
      ⟨tokenId, htoken⟩, -⟩ := htexts
    obtain ⟨⟨issued, issuedAt, hissued, hstart⟩, ⟨first, notBefore, hfirst, hopen⟩, -⟩ := hdates
    obtain ⟨isAdmin, hadmin⟩ := exists_readAdmin_iff.2 hadmin
    obtain ⟨audience, haudience⟩ := exists_readAudience_iff.2 haudience
    exact ⟨⟨expiresAt, userId, username, userEmail, isAdmin, audience, issuedAt, notBefore, issuer,
      tokenId⟩, ofFields_eq_ok.2 ⟨hid, hname, hemail, hissuer, htoken,
        ⟨q, readDate_eq_ok.2 (.inr ⟨q, hexpiry, rfl⟩), instantOf_eq_ok.2 hend⟩,
        ⟨issued, hissued, hstart⟩, ⟨first, hfirst, hopen⟩, hadmin, haudience⟩⟩

end Claims

namespace Token

/-! ### The parts of a token -/

section Parts

variable {before after cs : List Char} {token : String}

theorem cutFirst_eq_some :
    cutFirst cs = some (before, after) ↔ cs = before ++ '.' :: after ∧ '.' ∉ before := by
  refine ⟨fun h => ?_, fun ⟨hcs, hbefore⟩ => hcs ▸ cutFirst_append hbefore after⟩
  induction cs generalizing before with
  | nil => cases h
  | cons c cs ih =>
    rw [cutFirst] at h
    split at h
    · rename_i hpoint
      obtain ⟨rfl, rfl⟩ := Prod.mk.inj (Option.some.inj h)
      exact ⟨by rw [hpoint]; rfl, List.not_mem_nil⟩
    · rename_i hpoint
      obtain ⟨⟨first, rest⟩, hcut, heq⟩ := Option.map_eq_some_iff.1 h
      obtain ⟨rfl, rfl⟩ := Prod.mk.inj heq
      obtain ⟨rfl, hfirst⟩ := ih hcut
      exact ⟨rfl, List.not_mem_cons_of_ne_of_not_mem (Ne.symm hpoint) hfirst⟩

theorem cutLast_eq_some :
    cutLast cs = some (before, after) ↔ cs = before ++ '.' :: after ∧ '.' ∉ after := by
  refine ⟨fun h => ?_, fun ⟨hcs, hafter⟩ => hcs ▸ cutLast_append hafter before⟩
  obtain ⟨⟨last, front⟩, hcut, heq⟩ := Option.map_eq_some_iff.1 h
  obtain ⟨rfl, rfl⟩ := Prod.mk.inj heq
  obtain ⟨hcs, hlast⟩ := cutFirst_eq_some.1 hcut
  refine ⟨?_, fun hmem => hlast (List.mem_reverse.1 hmem)⟩
  rw [← List.reverse_reverse cs, hcs, List.reverse_append, List.reverse_cons, List.append_assoc,
    List.singleton_append]

/-- A text is a signed text, a point and a signature without points; and the signed text
is a header without points, a point and a payload. -/
structure Segments.Of (segments : Segments) (token : String) : Prop where
  token : token.toList = segments.signed ++ '.' :: segments.signature
  signed : segments.signed = segments.header ++ '.' :: segments.payload
  header : '.' ∉ segments.header
  signature : '.' ∉ segments.signature

theorem segments?_eq_some {segments : Segments} :
    segments? token.toList = some segments ↔ segments.Of token := by
  constructor
  · intro h
    obtain ⟨⟨signed, signature⟩, hlast, h⟩ := Option.bind_eq_some_iff.1 h
    obtain ⟨⟨header, payload⟩, hfirst, h⟩ := Option.bind_eq_some_iff.1 h
    obtain rfl := Option.some.inj h
    obtain ⟨htoken, hsignature⟩ := cutLast_eq_some.1 hlast
    obtain ⟨hsigned, hheader⟩ := cutFirst_eq_some.1 hfirst
    exact ⟨htoken, hsigned, hheader, hsignature⟩
  · obtain ⟨signed, header, payload, signature⟩ := segments
    intro ⟨htoken, hsigned, hheader, hsignature⟩
    dsimp only at htoken hsigned
    subst hsigned
    rw [htoken]
    exact segments?_append hheader hsignature payload

/-- A header that passes its checks does not keep the payload out of the token. -/
theorem isDetached_of_checkHeader {header : List (String × Value)}
    (h : checkHeader header = .ok ()) : isDetached header = false := by
  by_contra hdetached
  obtain ⟨fault, hfault⟩ : ∃ fault, (if (criticalNames header).isEmpty = true then
      throw Fault.detachedNotCritical else throw Fault.detachedPayloadNeeded :
        Except Fault Unit) = .error fault := by
    split <;> exact ⟨_, rfl⟩
  unfold checkHeader at h
  rw [eq_true_of_ne_false hdetached] at h
  dsimp only [if_true] at h
  rw [hfault] at h
  -- Whatever comes before it, the last check of such a header fails.
  split at h
  case h_4 => cases h
  all_goals
    split at h
    · cases h
    · obtain ⟨-, -, h⟩ := Except.bind_eq_ok.1 h
      cases h
    · cases h

/-- A segment of a token that holds an object, by its fields. -/
def HoldsObject (segment : List Char) (fields : List (String × Value)) : Prop :=
  ∃ bytes, Base64Url.decode segment = some bytes ∧ readJson bytes = .ok (.object fields)

theorem HoldsObject.unique {segment : List Char} {fields fields' : List (String × Value)}
    (h : HoldsObject segment fields) (h' : HoldsObject segment fields') : fields = fields' := by
  obtain ⟨bytes, hbytes, hfields⟩ := h
  obtain ⟨bytes', hbytes', hfields'⟩ := h'
  obtain rfl := Option.some.inj (hbytes.symm.trans hbytes')
  exact Value.object.inj (Except.ok.inj (hfields.symm.trans hfields'))

/-- A token that can be taken apart has segments, and an object for a header. -/
theorem exists_header_of_takeApart {parts : Parts} (h : takeApart token = .ok parts) :
    ∃ segments bytes header, segments? token.toList = some segments ∧
      Base64Url.decode segments.header = some bytes ∧ readJson bytes = .ok (.object header) := by
  unfold takeApart at h
  cases hsegments : segments? token.toList with
  | none =>
    rw [hsegments] at h
    cases h
  | some segments =>
    rw [hsegments] at h
    dsimp only at h
    cases hbytes : Base64Url.decode segments.header with
    | none =>
      rw [hbytes] at h
      cases h
    | some bytes =>
      rw [hbytes] at h
      dsimp only at h
      cases hheader : readJson bytes with
      | error cause =>
        rw [hheader] at h
        cases h
      | ok v =>
        rw [hheader] at h
        cases v with
        | object header => exact ⟨segments, bytes, header, rfl, hbytes, hheader⟩
        | _ => cases h

/-- **When a token can be taken apart**, and into what. -/
theorem takeApart_eq_ok {parts : Parts} :
    takeApart token = .ok parts ↔
      parts.segments.Of token ∧ HoldsObject parts.segments.header parts.header ∧
        Base64Url.decode parts.segments.payload = some parts.payload ∧
        Base64Url.decode parts.segments.signature = some parts.signature ∧
        checkHeader parts.header = .ok () := by
  rw [← segments?_eq_some]
  constructor
  · intro h
    obtain ⟨segments, bytes, header, hsegments, hbytes, hheader⟩ := exists_header_of_takeApart h
    unfold takeApart at h
    rw [hsegments] at h
    dsimp only at h
    rw [hbytes] at h
    dsimp only at h
    rw [hheader] at h
    dsimp only at h
    rw [pure_bind] at h
    -- For both kinds of payloads the signature and the header are looked at.
    cases hsignature : Base64Url.decode segments.signature with
    | none =>
      rw [hsignature] at h
      split at h <;> split at h <;> cases h
    | some signature =>
      cases hcheck : checkHeader header with
      | error fault =>
        rw [hsignature, hcheck] at h
        split at h <;> split at h <;> cases h
      | ok _ =>
        rw [isDetached_of_checkHeader hcheck, if_neg Bool.false_ne_true, hsignature, hcheck] at h
        cases hpayload : Base64Url.decode segments.payload with
        | none =>
          rw [hpayload] at h
          cases h
        | some payload =>
          rw [hpayload] at h
          cases h
          exact ⟨hsegments, ⟨bytes, hbytes, hheader⟩, hpayload, hsignature, hcheck⟩
  · obtain ⟨segments, header, payload, signature⟩ := parts
    intro ⟨hsegments, ⟨bytes, hbytes, hheader⟩, hpayload, hsignature, hcheck⟩
    dsimp only at hsegments hbytes hheader hpayload hsignature hcheck
    unfold takeApart
    rw [hsegments]
    dsimp only
    rw [hbytes]
    dsimp only
    rw [hheader]
    dsimp only
    rw [pure_bind, isDetached_of_checkHeader hcheck, if_neg Bool.false_ne_true, hpayload]
    dsimp only
    rw [pure_bind, hsignature]
    dsimp only
    rw [hcheck]
    rfl

/-- What stands in a token: the fields of its header and of its payload. -/
structure Holds (token : String) (segments : Segments)
    (header payload : List (String × Value)) : Prop where
  cut : segments.Of token
  header : HoldsObject segments.header header
  payload : HoldsObject segments.payload payload

/-- Nothing else stands in a token. -/
theorem Holds.unique {segments segments' : Segments}
    {header header' payload payload' : List (String × Value)}
    (h : Holds token segments header payload) (h' : Holds token segments' header' payload') :
    segments = segments' ∧ header = header' ∧ payload = payload' := by
  obtain rfl : segments = segments' := Option.some.inj
    ((segments?_eq_some.2 h.cut).symm.trans (segments?_eq_some.2 h'.cut))
  exact ⟨rfl, h.header.unique h'.header, h.payload.unique h'.payload⟩

end Parts

/-! ### Decoding -/

section Decoding

variable {token : String} {decoder : Decoder} {key : Key} {c : Claims}
  {header payload : List (String × Value)}

/-- A token with claims can be taken apart, and its payload is an object. -/
theorem exists_object_of_decode (h : decode decoder token = .ok c) :
    ∃ parts fields, takeApart token = .ok parts ∧
      readJson parts.payload = .ok (.object fields) := by
  unfold decode at h
  by_cases hempty : token.isEmpty = true
  · rw [if_pos hempty] at h
    cases h
  rw [if_neg hempty] at h
  obtain ⟨parts, hparts, h⟩ := Except.bind_eq_ok.1 h
  -- Any other payload is refused, if the signature is not refused before.
  cases hfields : readJson parts.payload with
  | error cause =>
    rw [hfields] at h
    dsimp only at h
    split at h
    · obtain ⟨-, -, h⟩ := Except.bind_eq_ok.1 h
      cases h
    · cases h
  | ok v =>
    rw [hfields] at h
    cases v with
    | object fields => exact ⟨parts, fields, hparts, hfields⟩
    | _ =>
      dsimp only at h
      split at h
      · obtain ⟨-, -, h⟩ := Except.bind_eq_ok.1 h
        cases h
      · cases h

/-- **What a decoder reads in a token**: it judges what stands there. -/
theorem decode_eq_ok :
    decode decoder token = .ok c ↔
      ∃ segments header payload signature, Holds token segments header payload ∧
        Base64Url.decode segments.signature = some signature ∧ checkHeader header = .ok () ∧
        judge decoder header segments.signed signature payload = .ok c := by
  constructor
  · intro h
    obtain ⟨parts, fields, hparts, hfields⟩ := exists_object_of_decode h
    obtain ⟨hcut, hheader, hpayload, hsignature, hcheck⟩ := takeApart_eq_ok.1 hparts
    rw [decode_of_takeApart hparts hfields] at h
    exact ⟨parts.segments, parts.header, fields, parts.signature,
      ⟨hcut, hheader, _, hpayload, hfields⟩, hsignature, hcheck, h⟩
  · rintro ⟨segments, header, payload, signature, ⟨hcut, hheader, bytes, hbytes, hfields⟩,
      hsignature, hcheck, h⟩
    have hparts : takeApart token = .ok { segments, header, payload := bytes, signature } :=
      takeApart_eq_ok.2 ⟨hcut, hheader, hbytes, hsignature, hcheck⟩
    rw [decode_of_takeApart hparts hfields]
    exact h

theorem checkText_eq_ok {name : String} {fault : Fault} {u : Unit} :
    checkText payload name fault = .ok u ↔ ∀ v ∈ payload.lookup name, v.IsText := by
  unfold checkText Value.IsText
  cases payload.lookup name with
  | none => simp
  | some v => cases v <;> simp

/-- A decoder without a key judges claims by their types. -/
theorem judge_eq_ok_of_key_eq_none {signed : List Char} {signature : List UInt8}
    (hkey : decoder.key = none) :
    judge decoder header signed signature payload = .ok c ↔ Claims.ofFields payload = .ok c := by
  unfold judge
  rw [hkey]
  exact Except.mapError_eq_ok

/-- A decoder with a key also asks for a signature, and for texts. -/
theorem judge_eq_ok {signed : List Char} {signature : List UInt8} (hkey : decoder.key = some key) :
    judge decoder header signed signature payload = .ok c ↔
      checkSignature decoder key header signed signature = .ok () ∧
        (∀ name ∈ ["sub", "jti"], ∀ v ∈ payload.lookup name, v.IsText) ∧
        Claims.ofFields payload = .ok c := by
  have htexts : (∀ name ∈ ["sub", "jti"], ∀ v ∈ payload.lookup name, v.IsText) ↔
      checkText payload "sub" .subjectNotText = .ok () ∧
        checkText payload "jti" .tokenIdNotText = .ok () := by
    rw [checkText_eq_ok, checkText_eq_ok]
    simp
  rw [htexts]
  unfold judge
  rw [hkey]
  constructor
  · intro h
    obtain ⟨_, hsignature, h⟩ := Except.bind_eq_ok.1 h
    obtain ⟨_, hsubject, h⟩ := Except.bind_eq_ok.1 h
    obtain ⟨_, hid, h⟩ := Except.bind_eq_ok.1 h
    exact ⟨hsignature, ⟨hsubject, hid⟩, Except.mapError_eq_ok.1 h⟩
  · rintro ⟨hsignature, ⟨hsubject, hid⟩, h⟩
    dsimp only
    rw [hsignature, hsubject, hid, h]
    rfl

end Decoding

/-! ### Verification -/

section Verification

variable {library : Library} {token : String} {key : Key} {algorithms : List String} {c : Claims}
  {segments : Segments} {header payload : List (String × Value)}

/-- A decoder that is made like this reads claims in a token. -/
def Reads (library : Library) (verify : Bool) (key : Option Key) (algorithms : List String)
    (token : String) (c : Claims) : Prop :=
  ∃ decoder, Decoder.make verify key algorithms library = .ok decoder ∧
    decode decoder token = .ok c

/-- The header names one of some algorithms, one which signs with a shared secret, and the
last segment is the keyed digest of the text before the last point. -/
def Segments.IsSigned (segments : Segments) (header : List (String × Value)) (key : Key)
    (algorithms : List String) : Prop :=
  ∃ name hash signature, header.lookup "alg" = some (.text name) ∧ name ∈ algorithms ∧
    Algorithm.ofName? name = some (.keyed hash) ∧
    Base64Url.decode segments.signature = some signature ∧
    signature = hash.keyed key.octets (Text.Utf8.encode segments.signed)

/-- Subject and id are texts, if they are there. -/
def HasTexts (payload : List (String × Value)) : Prop :=
  ∀ name ∈ ["sub", "jti"], ∀ v ∈ payload.lookup name, v.IsText

/-- A signed token whose subject and id are texts. -/
def IsVerified (key : Key) (algorithms : List String) (token : String) : Prop :=
  ∃ segments header payload, Holds token segments header payload ∧
    segments.IsSigned header key algorithms ∧ HasTexts payload

theorem reads_false_iff :
    Reads library false none [] token c ↔ ∃ segments header payload signature,
      Holds token segments header payload ∧
        Base64Url.decode segments.signature = some signature ∧ checkHeader header = .ok () ∧
        Claims.ofFields payload = .ok c := by
  constructor
  · rintro ⟨decoder, hmake, h⟩
    obtain rfl := Except.ok.inj hmake
    obtain ⟨segments, header, payload, signature, hholds, hsignature, hcheck, h⟩ :=
      decode_eq_ok.1 h
    exact ⟨segments, header, payload, signature, hholds, hsignature, hcheck,
      (judge_eq_ok_of_key_eq_none rfl).1 h⟩
  · rintro ⟨segments, header, payload, signature, hholds, hsignature, hcheck, h⟩
    exact ⟨_, rfl, decode_eq_ok.2 ⟨segments, header, payload, signature, hholds, hsignature,
      hcheck, (judge_eq_ok_of_key_eq_none rfl).2 h⟩⟩

/-- Algorithms that sign with a shared secret, and the one that does not sign. -/
def AreSecretOrNone (algorithms : List String) : Prop :=
  ∀ name ∈ algorithms, name ∈ secretNames ∨ name = "none"

/-- Among such algorithms a good signature is a keyed digest. -/
theorem isSignature_iff {name : String} {signed : List Char} {signature : List UInt8}
    (halgorithms : AreSecretOrNone algorithms) (hname : name ∈ algorithms) :
    IsSignature library key signed signature name ↔
      ∃ hash, Algorithm.ofName? name = some (.keyed hash) ∧
        Secret.mistaken? key.octets = none ∧
        signature = hash.keyed key.octets (Text.Utf8.encode signed) := by
  constructor
  · rintro (⟨hhash, hsecret, hkeyed⟩ | ⟨hpair, -⟩)
    · exact ⟨_, hhash, hsecret, hkeyed⟩
    · -- No algorithm with a pair of keys is listed.
      rcases halgorithms name hname with hsecret | rfl
      · obtain ⟨hash, hhash⟩ := ofName?_of_mem hsecret
        rw [hpair] at hhash
        cases hhash
      · cases hpair
  · rintro ⟨hash, hhash, hsecret, hkeyed⟩
    exact .keyed hhash hsecret hkeyed

/-- A decoder that checks signatures is made with every key that is not empty. -/
theorem make_true (hkey : key.isEmpty = false) (hlisted : algorithms ≠ []) :
    Decoder.make true (some key) algorithms library =
      .ok { key := some key, algorithms, library } := by
  unfold Decoder.make
  dsimp only
  rw [if_neg (by decide), hkey, if_neg (mt List.isEmpty_iff.1 hlisted)]
  rfl

/-- What a decoder reads that checks signatures. -/
theorem reads_true_iff (hkey : key.isEmpty = false) (hlisted : algorithms ≠ [])
    (halgorithms : AreSecretOrNone algorithms) :
    Reads library true (some key) algorithms token c ↔
      Secret.mistaken? key.octets = none ∧ ∃ segments header payload,
        Holds token segments header payload ∧ checkHeader header = .ok () ∧
          segments.IsSigned header key algorithms ∧ HasTexts payload ∧
          Claims.ofFields payload = .ok c := by
  constructor
  · rintro ⟨decoder, hmake, h⟩
    obtain rfl := Except.ok.inj ((make_true hkey hlisted).symm.trans hmake)
    obtain ⟨segments, header, payload, signature, hholds, hsignature, hcheck, h⟩ :=
      decode_eq_ok.1 h
    obtain ⟨hsigned, htexts, hclaims⟩ := (judge_eq_ok rfl).1 h
    obtain ⟨name, hlookup, haccepts, hgood⟩ := checkSignature_eq_ok.1 hsigned
    obtain ⟨hash, hname, hsecret, hkeyed⟩ := (isSignature_iff halgorithms haccepts).1 hgood
    exact ⟨hsecret, segments, header, payload, hholds, hcheck,
      ⟨name, hash, signature, hlookup, haccepts, hname, hsignature, hkeyed⟩, htexts, hclaims⟩
  · rintro ⟨hsecret, segments, header, payload, hholds, hcheck,
      ⟨name, hash, signature, hlookup, haccepts, hname, hsignature, hkeyed⟩, htexts, hclaims⟩
    refine ⟨_, make_true hkey hlisted, decode_eq_ok.2 ⟨segments, header, payload, signature,
      hholds, hsignature, hcheck, (judge_eq_ok rfl).2 ⟨?_, htexts, hclaims⟩⟩⟩
    exact checkSignature_eq_ok.2 ⟨name, hlookup, haccepts, .keyed hname hsecret hkeyed⟩

/-- **Verified decoding.**  The key is not empty, and the algorithms are some that sign with a
shared secret, or the one that does not sign.  Then a decoder that checks signatures reads
in a token what a decoder reads that checks none, if the key is no written form of another
key and the token is signed with it by one of the algorithms, with texts for subject and id,
and nothing else.  It reads something in every such token that is well formed and whose
claims have their types, whatever the dates, the audience and the issuer are; and it reads
nothing in a token whose header names no listed algorithm that signs with a shared secret. -/
theorem verified_decode_iff (library : Library) (key : Key) (algorithms : List String)
    (token : String) (hkey : key.isEmpty = false) (hlisted : algorithms ≠ [])
    (halgorithms : AreSecretOrNone algorithms) :
    (∀ c, Reads library true (some key) algorithms token c ↔
      Reads library false none [] token c ∧ Secret.mistaken? key.octets = none ∧
        IsVerified key algorithms token) ∧
    ((∃ c, Reads library true (some key) algorithms token c) ↔
      Secret.mistaken? key.octets = none ∧ ∃ segments header payload,
        Holds token segments header payload ∧ checkHeader header = .ok () ∧
        segments.IsSigned header key algorithms ∧ HasTexts payload ∧ Claims.Typed payload) ∧
    ∀ segments header payload, Holds token segments header payload →
      (∀ name ∈ algorithms, name ∈ secretNames → header.lookup "alg" ≠ some (.text name)) →
      ∀ c, ¬Reads library true (some key) algorithms token c := by
  have hreads : ∀ {c}, Reads library true (some key) algorithms token c ↔ _ :=
    reads_true_iff hkey hlisted halgorithms
  refine ⟨fun c => ?_, ?_, ?_⟩
  · rw [hreads, reads_false_iff]
    constructor
    · rintro ⟨hsecret, segments, header, payload, hholds, hcheck, hsigned, htexts, h⟩
      obtain ⟨_, _, signature, _, _, _, hsignature, _⟩ := id hsigned
      exact ⟨⟨segments, header, payload, signature, hholds, hsignature, hcheck, h⟩, hsecret,
        segments, header, payload, hholds, hsigned, htexts⟩
    · rintro ⟨⟨segments, header, payload, signature, hholds, -, hcheck, h⟩, hsecret,
        segments', header', payload', hholds', hsigned, htexts⟩
      -- Both speak of the same header and the same payload.
      obtain ⟨rfl, rfl, rfl⟩ := hholds.unique hholds'
      exact ⟨hsecret, segments, header, payload, hholds, hcheck, hsigned, htexts, h⟩
  · constructor
    · rintro ⟨c, h⟩
      obtain ⟨hsecret, segments, header, payload, hholds, hcheck, hsigned, htexts, h⟩ :=
        hreads.1 h
      exact ⟨hsecret, segments, header, payload, hholds, hcheck, hsigned, htexts,
        Claims.exists_ofFields_iff.1 ⟨c, h⟩⟩
    · rintro ⟨hsecret, segments, header, payload, hholds, hcheck, hsigned, htexts, htyped⟩
      obtain ⟨c, h⟩ := Claims.exists_ofFields_iff.2 htyped
      exact ⟨c, hreads.2
        ⟨hsecret, segments, header, payload, hholds, hcheck, hsigned, htexts, h⟩⟩
  · intro segments header payload hholds hunlisted c h
    obtain ⟨-, segments', header', payload', hholds', -, hsigned, -, -⟩ := hreads.1 h
    obtain ⟨rfl, rfl, rfl⟩ := hholds.unique hholds'
    obtain ⟨name, hash, -, hlookup, hlisted, hname, -⟩ := hsigned
    exact hunlisted name hlisted (mem_of_ofName? hname) hlookup

end Verification

/-! ### A secret, and a public key for one -/

namespace Notice

/-- A shared secret. -/
def secret : Key := .text "secret"

/-- The written form of a public key. -/
def publicKey : Key := .text "-----BEGIN PUBLIC KEY-----\nAAAA\n-----END PUBLIC KEY-----"

/-- The payload of the token. -/
def payload : List (String × Value) := [("user_id", .text "u1"), ("exp", .int 4102444800)]

/-- The text that is signed. -/
def input : List Char := signingInput "HS256" payload

/-- The keyed digest of the text under the bytes of a key. -/
def signature (key : Key) : List UInt8 := hash256.keyed key.octets (Text.Utf8.encode input)

/-- A token that is signed with a key as with a secret. -/
def token (key : Key) : String :=
  String.ofList (input ++ '.' :: Base64Url.encode (signature key))

/-- The claims of the token. -/
def claims : Claims := { expiresAt := ⟨4102444800000000⟩, userId := "u1" }

theorem clear_payload : Json.Clear Json.nestingLimit (.object payload) := by
  refine .object (by decide) fun f hf => ?_
  simp only [payload, List.mem_cons, List.not_mem_nil, or_false] at hf
  rcases hf with rfl | rfl
  · exact .text _
  · exact .int (Nat.le_trans (Text.Numeral.length_natDigits_le 9 (by decide)) (by decide))

theorem takeApart_token (key : Key) :
    takeApart (token key) = .ok (encodedParts "HS256" payload (signature key)) :=
  takeApart_encode (signature key)

theorem holds_token (key : Key) : Holds (token key)
    (encodedParts "HS256" payload (signature key)).segments (headerFields "HS256") payload := by
  obtain ⟨hcut, hheader, hpayload, -, -⟩ := takeApart_eq_ok.1 (takeApart_token key)
  exact ⟨hcut, hheader, _, hpayload, readJson_jsonBytes clear_payload⟩

/-- Whoever checks no signatures reads the claims. -/
theorem reads_token (key : Key) : Reads {} false none [] (token key) claims := by
  obtain ⟨-, -, -, hsignature, hcheck⟩ := takeApart_eq_ok.1 (takeApart_token key)
  exact reads_false_iff.2 ⟨_, _, _, _, holds_token key, hsignature, hcheck, by rfl⟩

theorem isVerified_token (key : Key) {algorithms : List String} (h : "HS256" ∈ algorithms) :
    IsVerified key algorithms (token key) := by
  obtain ⟨-, -, -, hsignature, -⟩ := takeApart_eq_ok.1 (takeApart_token key)
  refine ⟨_, _, _, holds_token key, ⟨"HS256", hash256, signature key, rfl, h, rfl, hsignature,
    rfl⟩, ?_⟩
  -- Neither of the two names is in the payload.
  intro name hname v hv
  simp only [List.mem_cons, List.not_mem_nil, or_false] at hname
  rcases hname with rfl | rfl <;> cases hv

end Notice

open Notice in
/-- A token that is signed with the secret is read. -/
theorem verified_decode_notice :
    secret.isEmpty = false ∧ ["none", "HS256"] ≠ [] ∧ AreSecretOrNone ["none", "HS256"] ∧
      Reads {} true (some secret) ["none", "HS256"] (token secret) claims := by
  have hkey : secret.isEmpty = false := by decide
  have hlisted : ["none", "HS256"] ≠ [] := List.cons_ne_nil _ _
  have halgorithms : AreSecretOrNone ["none", "HS256"] := by
    unfold AreSecretOrNone
    decide
  obtain ⟨hreads, -, -⟩ := verified_decode_iff {} secret ["none", "HS256"] (token secret) hkey
    hlisted halgorithms
  exact ⟨hkey, hlisted, halgorithms,
    (hreads claims).2 ⟨reads_token secret, by decide, isVerified_token secret (by decide)⟩⟩

open Notice in
/-- A token that is signed with a listed algorithm and the key of the decoder, and that
can be read, is refused nevertheless if everybody may know the key. -/
theorem public_key_refused :
    publicKey.isEmpty = false ∧ AreSecretOrNone ["HS256"] ∧
      Reads {} false none [] (token publicKey) claims ∧
      IsVerified publicKey ["HS256"] (token publicKey) ∧
      ¬Reads {} true (some publicKey) ["HS256"] (token publicKey) claims := by
  have hkey : publicKey.isEmpty = false := by decide
  have halgorithms : AreSecretOrNone ["HS256"] := by
    unfold AreSecretOrNone
    decide
  refine ⟨hkey, halgorithms, reads_token publicKey, isVerified_token publicKey (by decide),
    fun h => ?_⟩
  obtain ⟨hsecret, -⟩ := (reads_true_iff hkey (List.cons_ne_nil _ _) halgorithms).1 h
  have hmistake : Secret.mistaken? publicKey.octets = some .keyOfPair := by decide
  rw [hmistake] at hsecret
  cases hsecret

end Token

end Guildhall
