/-
Guildhall/Proofs/RoundTrip.lean

What is issued is read back.  A payload keeps dates in whole seconds and leaves
out what is empty; so claims lose nothing in it if their dates are whole
(`Claims.Portable`) and their audience is not the empty text alone.  A decoder
that trusts the key of a token, because it holds the same one or asks for none,
finds in the token what was put into it:

    decode decoder token = .ok claims

No text is too strange for that: what the names in the claims hold does not
matter.

Main statements: `Token.decode_of_trusts` and `Registry.issue_round_trip`.
-/
import Guildhall.Proofs.Login
import Guildhall.Proofs.Ready

namespace Guildhall

/-! ### Claims that lose nothing -/

/-- The first instant of a second, if the calendar has it. -/
def Instant.IsWhole (t : Instant) : Prop := t.wholeSecond = t ∧ t.inCalendar = true

theorem Instant.isWhole_of_mod {t : Instant} (hmod : t.micros % 1000000 = 0)
    (h : t.inCalendar = true) : t.IsWhole :=
  ⟨by rw [wholeSecond, hmod, Int.sub_zero], h⟩

/-- A whole second is read back from its number. -/
theorem Instant.IsWhole.ofSeconds?_seconds {t : Instant} (h : t.IsWhole) :
    Instant.ofSeconds? t.seconds = some t := by
  have hback := Instant.ofSeconds?_wholeSecond (t := t) (by rw [h.1, h.2])
  rwa [h.1] at hback

/-- Claims that a payload holds without loss. -/
structure Claims.Portable (c : Claims) : Prop where
  audience : c.audience ≠ [""]
  expiresAt : c.expiresAt.IsWhole
  issuedAt : ∀ t ∈ c.issuedAt, t.IsWhole
  notBefore : ∀ t ∈ c.notBefore, t.IsWhole

/-- Claims whose dates are whole seconds. -/
structure Claims.WholeDates (c : Claims) : Prop where
  expiresAt : c.expiresAt.IsWhole
  issuedAt : ∀ t ∈ c.issuedAt, t.IsWhole
  notBefore : ∀ t ∈ c.notBefore, t.IsWhole

namespace Claims

variable {c : Claims}

theorem Portable.wholeDates (h : c.Portable) : c.WholeDates :=
  ⟨h.expiresAt, h.issuedAt, h.notBefore⟩

theorem instantOf_seconds {t : Instant} (h : t.IsWhole) :
    instantOf (.whole t.seconds) = .ok t :=
  instantOf_whole_eq_ok.2 h.ofSeconds?_seconds

theorem optionalInstant_seconds {date : Option Instant} (h : ∀ t ∈ date, t.IsWhole) :
    optionalInstant (date.map fun t => .whole t.seconds) = .ok date := by
  cases date with
  | none => rfl
  | some t =>
    show (instantOf (.whole t.seconds)).map some = _
    rw [instantOf_seconds (h t rfl)]
    rfl

/-- Claims with whole dates are read back as they were written, but for an audience of
the empty text alone, which is left out. -/
theorem WholeDates.ofFields_payload (h : c.WholeDates) :
    ofFields c.payload =
      .ok { c with audience := if c.audience = [""] then [] else c.audience } := by
  rw [Claims.ofFields_payload, instantOf_seconds h.expiresAt, optionalInstant_seconds h.issuedAt,
    optionalInstant_seconds h.notBefore]
  rfl

/-- **Claims without loss are read back as they were written.** -/
theorem Portable.ofFields_payload (h : c.Portable) : ofFields c.payload = .ok c := by
  rw [h.wholeDates.ofFields_payload, if_neg h.audience]

theorem Portable.clear_payload (h : c.Portable) :
    Json.Clear Json.nestingLimit (.object c.payload) :=
  Claims.clear_payload h.expiresAt.2 (fun t ht => (h.issuedAt t ht).2)
    fun t ht => (h.notBefore t ht).2

/-- A payload has no subject. -/
theorem lookup_payload_sub (c : Claims) : c.payload.lookup "sub" = none := by
  rw [lookup_payload]
  rfl

/-- The id of a token is a text, if it is there. -/
theorem lookup_payload_jti (c : Claims) :
    c.payload.lookup "jti" = none ∨ c.payload.lookup "jti" = some (.text c.tokenId) := by
  have hentry : c.entries.lookup "jti" = some (.text c.tokenId) := rfl
  rw [lookup_payload, hentry, Option.filter_some]
  by_cases hempty : isEmptyClaim (.text c.tokenId) = true
  · rw [hempty]
    exact .inl rfl
  · rw [eq_false_of_ne_true hempty]
    exact .inr rfl

end Claims

/-! ### Signatures -/

namespace Token

variable {library : Library} {algorithm : String} {key : Key} {hash : Digest.Hash}

/-- The names of the algorithms that sign with a shared secret. -/
def secretNames : List String := ["HS256", "HS384", "HS512"]

theorem ofName?_of_mem (h : algorithm ∈ secretNames) :
    ∃ hash, Algorithm.ofName? algorithm = some (.keyed hash) := by
  simp only [secretNames, List.mem_cons, List.not_mem_nil, or_false] at h
  rcases h with rfl | rfl | rfl
  · exact ⟨hash256, rfl⟩
  · exact ⟨hash384, rfl⟩
  · exact ⟨hash512, rfl⟩

theorem mem_of_ofName? (h : Algorithm.ofName? algorithm = some (.keyed hash)) :
    algorithm ∈ secretNames := by
  unfold Algorithm.ofName? at h
  simp only [secretNames, List.mem_cons, List.not_mem_nil, or_false]
  split at h
  · exact .inl ‹_›
  · split at h
    · exact .inr (.inl ‹_›)
    · split at h
      · exact .inr (.inr ‹_›)
      · split at h
        · cases h
        · split at h <;> cases h

/-- What can be a shared secret: bytes that are no written form of another key. -/
def Key.IsSecret (key : Key) : Prop := key.isEmpty = false ∧ Secret.mistaken? key.octets = none

/-- A shared secret signs every text, and nothing else signs any. -/
theorem sign_eq_ok (hname : Algorithm.ofName? algorithm = some (.keyed hash))
    {input : List Char} {signature : List UInt8} :
    sign library algorithm key input = .ok signature ↔
      key.IsSecret ∧ signature = hash.keyed key.octets (Text.Utf8.encode input) := by
  unfold sign
  rw [hname]
  dsimp only
  by_cases hsecret : key.IsSecret
  · have hgood : ¬(key.isEmpty || (Secret.mistaken? key.octets).isSome) = true := by
      rw [hsecret.1, hsecret.2]
      exact Bool.false_ne_true
    rw [if_neg hgood]
    exact ⟨fun h => ⟨hsecret, (Except.ok.inj h).symm⟩, fun h => congrArg Except.ok h.2.symm⟩
  · have hbad : (key.isEmpty || (Secret.mistaken? key.octets).isSome) = true := by
      by_contra hgood
      rw [Bool.or_eq_true, not_or, Bool.not_eq_true, Bool.not_eq_true,
        Option.isSome_eq_false_iff, Option.isNone_iff_eq_none] at hgood
      exact hsecret hgood
    rw [if_pos hbad]
    constructor
    · rintro ⟨⟩
    · rintro ⟨h, -⟩
      exact absurd h hsecret

/-- A good signature of a text by the algorithm of a name: the keyed digest of the text under a
shared secret, or what the library takes for one that is made with a pair of keys. -/
inductive IsSignature (library : Library) (key : Key) (signed : List Char)
    (signature : List UInt8) (name : String) : Prop
  | keyed {hash : Digest.Hash} (hname : Algorithm.ofName? name = some (.keyed hash))
      (hsecret : Secret.mistaken? key.octets = none)
      (hkeyed : signature = hash.keyed key.octets (Text.Utf8.encode signed)) :
      IsSignature library key signed signature name
  | publicKey (hname : Algorithm.ofName? name = some .publicKey)
      (hverify : library.verify name key signed signature = some true) :
      IsSignature library key signed signature name

theorem checkSignatureBy_eq_ok {name : String} {signed : List Char} {signature : List UInt8}
    {u : Unit} :
    checkSignatureBy library name key signed signature = .ok u ↔
      IsSignature library key signed signature name := by
  unfold checkSignatureBy
  constructor
  · intro h
    cases hname : Algorithm.ofName? name with
    | none =>
      rw [hname] at h
      cases h
    | some way =>
      rw [hname] at h
      cases way with
      | unsigned => cases h
      | publicKey =>
        dsimp only at h
        cases hverify : library.verify name key signed signature with
        | none =>
          rw [hverify] at h
          cases h
        | some good =>
          rw [hverify] at h
          cases good with
          | false => cases h
          | true => exact .publicKey hname hverify
      | keyed hash =>
        dsimp only at h
        cases hsecret : Secret.mistaken? key.octets with
        | some mistake =>
          rw [hsecret] at h
          cases h
        | none =>
          rw [hsecret] at h
          dsimp only at h
          split at h
          · rename_i hkeyed
            exact .keyed hname hsecret hkeyed.symm
          · cases h
  · rintro (⟨hname, hsecret, rfl⟩ | ⟨hname, hverify⟩)
    · rw [hname]
      dsimp only
      rw [hsecret]
      exact if_pos rfl
    · rw [hname]
      dsimp only
      rw [hverify]
      rfl

theorem acceptedAlgorithm_eq_ok {decoder : Decoder} {header : List (String × Value)}
    {name : String} :
    acceptedAlgorithm decoder header = .ok name ↔
      header.lookup "alg" = some (.text name) ∧ name ≠ "" ∧ name ∈ decoder.algorithms := by
  have hallowed : ∀ name, (name.isEmpty || !decoder.algorithms.contains name) = false ↔
      name ≠ "" ∧ name ∈ decoder.algorithms := by
    intro name
    rw [Bool.or_eq_false_iff, Bool.not_eq_false', List.contains_iff_mem, ne_eq,
      ← String.isEmpty_iff, Bool.not_eq_true]
  unfold acceptedAlgorithm
  cases hlookup : header.lookup "alg" with
  | none => exact iff_of_false nofun nofun
  | some v =>
    cases v with
    | text given =>
      dsimp only
      cases hgiven : given.isEmpty || !decoder.algorithms.contains given with
      | true =>
        refine iff_of_false nofun ?_
        rintro ⟨⟨⟩, hname⟩
        rw [(hallowed _).2 hname] at hgiven
        cases hgiven
      | false =>
        rw [if_neg Bool.false_ne_true]
        constructor
        · rintro ⟨⟩
          exact ⟨rfl, (hallowed _).1 hgiven⟩
        · rintro ⟨⟨⟩, -⟩
          rfl
    | _ => exact iff_of_false nofun (by rintro ⟨⟨⟩, -⟩)

/-- **When a signature is good**: the header names an algorithm that the decoder accepts, and
the signature is one of the text by that algorithm. -/
theorem checkSignature_eq_ok {decoder : Decoder} {header : List (String × Value)}
    {signed : List Char} {signature : List UInt8} {u : Unit} :
    checkSignature decoder key header signed signature = .ok u ↔
      ∃ name, header.lookup "alg" = some (.text name) ∧ name ∈ decoder.algorithms ∧
        IsSignature decoder.library key signed signature name := by
  unfold checkSignature
  rw [Except.bind_eq_ok]
  simp only [acceptedAlgorithm_eq_ok, checkSignatureBy_eq_ok]
  constructor
  · rintro ⟨name, ⟨hlookup, -, haccepts⟩, hsignature⟩
    exact ⟨name, hlookup, haccepts, hsignature⟩
  · rintro ⟨name, hlookup, haccepts, hsignature⟩
    -- The empty text names no algorithm.
    refine ⟨name, ⟨hlookup, ?_, haccepts⟩, hsignature⟩
    rintro rfl
    rcases hsignature with ⟨hname, -, -⟩ | ⟨hname, -⟩ <;> cases hname

/-- A signature is good for whoever holds the secret and accepts the algorithm. -/
theorem checkSignature_sign (hname : Algorithm.ofName? algorithm = some (.keyed hash))
    {input : List Char} {signature : List UInt8}
    (hsign : sign library algorithm key input = .ok signature) {decoder : Decoder}
    (haccepts : algorithm ∈ decoder.algorithms) :
    checkSignature decoder key (headerFields algorithm) input signature = .ok () := by
  obtain ⟨⟨-, hsecret⟩, hsignature⟩ := (sign_eq_ok hname).1 hsign
  exact checkSignature_eq_ok.2 ⟨algorithm, rfl, haccepts, .keyed hname hsecret hsignature⟩

/-! ### Decoding -/

/-- A decoder trusts what is signed with a key: it asks for no signature, or it has
that key and accepts the algorithm. -/
def Decoder.Trusts (decoder : Decoder) (algorithm : String) (key : Key) : Prop :=
  ∀ k ∈ decoder.key, k = key ∧ algorithm ∈ decoder.algorithms

theorem Decoder.trusts_of_key_eq_none {decoder : Decoder} (h : decoder.key = none) :
    decoder.Trusts algorithm key := by
  intro k hk
  rw [h] at hk
  cases hk

/-- A decoder that is made with a shared secret trusts it. -/
theorem Decoder.make_of_isSecret (h : key.IsSecret) (algorithm : String) (library : Library) :
    ∃ decoder, Decoder.make true (some key) [algorithm] library = .ok decoder ∧
      decoder.Trusts algorithm key := by
  refine ⟨⟨some key, [algorithm], library⟩, by simp [Decoder.make, h.1], ?_⟩
  rintro k ⟨⟩
  exact ⟨rfl, List.mem_singleton.2 rfl⟩

/-- A decoder that trusts the key of a token reads its payload. -/
theorem decode_eq_of_trusts (hname : algorithm ∈ secretNames) {c : Claims} {token : String}
    (hencode : encode library algorithm key c.payload = .ok token)
    (hclear : Json.Clear Json.nestingLimit (.object c.payload)) {decoder : Decoder}
    (htrusts : decoder.Trusts algorithm key) :
    decode decoder token = (Claims.ofFields c.payload).mapError .claims := by
  obtain ⟨hash, hhash⟩ := ofName?_of_mem hname
  obtain ⟨signature, hsign, hjudge⟩ := decode_encode hencode hclear decoder
  rw [hjudge]
  unfold judge
  cases hkey : decoder.key with
  | none => rfl
  | some k =>
    obtain ⟨rfl, haccepts⟩ := htrusts k hkey
    have hsubject : checkText c.payload "sub" .subjectNotText = .ok () := by
      unfold checkText
      rw [c.lookup_payload_sub]
    have hid : checkText c.payload "jti" .tokenIdNotText = .ok () := by
      unfold checkText
      rcases c.lookup_payload_jti with h | h <;> rw [h]
    dsimp only
    rw [checkSignature_sign hhash hsign haccepts, hsubject, hid]
    rfl

/-- **A decoder that trusts the key of a token finds in it the claims that it was made
of.** -/
theorem decode_of_trusts (hname : algorithm ∈ secretNames) {c : Claims} {token : String}
    (hencode : encode library algorithm key c.payload = .ok token) (hc : c.Portable)
    {decoder : Decoder} (htrusts : decoder.Trusts algorithm key) :
    decode decoder token = .ok c := by
  rw [decode_eq_of_trusts hname hencode hc.clear_payload htrusts, hc.ofFields_payload]
  rfl

/-- Tokens that are good for a whole number of seconds expire at a whole second. -/
theorem Issuer.isWhole_of_expiry? {issuer : Issuer} {now expiresAt : Instant}
    (hexpiry : issuer.expiry? now = some expiresAt) (hwhole : 1000000 ∣ issuer.lifetime) :
    expiresAt.IsWhole := by
  have hcalendar := Instant.inCalendar_of_ofMicros? hexpiry
  change Instant.ofMicros? (now.wholeSecond.micros + issuer.lifetime) = _ at hexpiry
  unfold Instant.ofMicros? at hexpiry
  split at hexpiry
  · obtain rfl := Option.some.inj hexpiry
    refine Instant.isWhole_of_mod ?_ hcalendar
    show (now.micros - now.micros % 1000000 + issuer.lifetime) % 1000000 = 0
    omega
  · cases hexpiry

/-- The claims of an issuer with an audience lose nothing, if tokens are good for a
whole number of seconds. -/
theorem Issuer.portable_claims {issuer : Issuer} {now expiresAt : Instant}
    (haudience : issuer.audience ≠ "") (hclock : now.inCalendar = true)
    (hexpiry : expiresAt.IsWhole) (tokenId : String) (holder : Holder) :
    (issuer.claims now expiresAt tokenId holder).Portable := by
  have hmod : now.wholeSecond.micros % 1000000 = 0 := by
    show (now.micros - now.micros % 1000000) % 1000000 = 0
    omega
  have hstart : ∀ t ∈ some now.wholeSecond, t.IsWhole := fun t ht =>
    Option.mem_some.1 ht ▸ Instant.isWhole_of_mod hmod (Instant.inCalendar_wholeSecond hclock)
  exact ⟨fun h => haudience (List.cons.inj h).1, hexpiry, hstart, hstart⟩

end Token

/-! ### Issuing -/

/-- An issuer works at an instant of the calendar: its key signs every text, and the
tokens that it issues expire within the calendar, also in whole seconds. -/
structure Token.Issuer.Works (issuer : Token.Issuer) (now : Instant) : Prop where
  clock : now.inCalendar = true
  signs : ∃ key, issuer.key = .ok key ∧
    ∀ input, ∃ signature, Token.sign issuer.library issuer.algorithm key input = .ok signature
  expires : ∃ expiresAt t, issuer.expiry? now = some expiresAt ∧
    Instant.ofSeconds? expiresAt.seconds = some t

/-- An issuer whose key signs every text. -/
def Token.Issuer.Signs (issuer : Token.Issuer) : Prop :=
  ∃ key, issuer.key = .ok key ∧
    ∀ input, ∃ signature, Token.sign issuer.library issuer.algorithm key input = .ok signature

namespace Registry

open Token

/-- An issuer whose key signs issues a token for everybody, if the calendar has the instant at
which the token expires. -/
theorem issue_of_signs {issuer : Issuer} {now expiresAt : Instant} (h : issuer.Signs)
    (hexpiry : issuer.expiry? now = some expiresAt) (holder : Holder) (d : Desk) :
    ∃ issued, issue issuer now holder d = .ok issued { d with supply := d.supply.nextToken.2 } := by
  obtain ⟨key, hkey, hsigns⟩ := h
  let claims := issuer.claims now expiresAt d.supply.nextToken.1 holder
  obtain ⟨signature, hsignature⟩ := hsigns (signingInput issuer.algorithm claims.payload)
  have hsign : ∃ issued, issuer.sign claims = .ok issued := by
    unfold Issuer.sign
    rw [hkey]
    show ∃ issued, (encode issuer.library issuer.algorithm key claims.payload >>= _) = .ok issued
    rw [encode_eq_ok.2 ⟨signature, hsignature, rfl⟩]
    exact ⟨_, rfl⟩
  obtain ⟨issued, hsign⟩ := hsign
  refine ⟨issued, ?_⟩
  unfold issue
  rw [hexpiry]
  exact (Session.bind_ready Session.takeTokenId_eq).trans (Session.lift_eq_ok.2 ⟨hsign, rfl⟩)

/-- An issuer that works issues a token for everybody. -/
theorem issue_of_works {issuer : Issuer} {now : Instant} (h : issuer.Works now) (holder : Holder)
    (d : Desk) :
    ∃ issued, issue issuer now holder d = .ok issued { d with supply := d.supply.nextToken.2 } := by
  obtain ⟨expiresAt, -, hexpiry, -⟩ := h.expires
  exact issue_of_signs h.signs hexpiry holder d

/-- The key of a token with a keyed algorithm is a shared secret. -/
theorem isSecret_of_issue {issuer : Issuer} {now : Instant} {holder : Holder} {d d' : Desk}
    {key : Key} {issued : Issued} (hname : issuer.algorithm ∈ secretNames)
    (hkey : issuer.key = .ok key) (h : issue issuer now holder d = .ok issued d') :
    key.IsSecret := by
  obtain ⟨hash, hhash⟩ := ofName?_of_mem hname
  obtain ⟨key', tokenId, hkey', -, -, hencode⟩ := encode_of_issue h
  obtain rfl : key = key' := Except.ok.inj (hkey.symm.trans hkey')
  obtain ⟨signature, hsign, -⟩ := encode_eq_ok.1 hencode
  exact ((sign_eq_ok hhash).1 hsign).1

/-- An issuer with a shared secret works, if its tokens expire at a whole second. -/
theorem works_of_isSecret {issuer : Issuer} {now expiresAt : Instant} {key : Key}
    (hname : issuer.algorithm ∈ secretNames) (hkey : issuer.key = .ok key)
    (hsecret : key.IsSecret) (hclock : now.inCalendar = true)
    (hexpiry : issuer.expiry? now = some expiresAt) (hwhole : expiresAt.IsWhole) :
    issuer.Works now := by
  obtain ⟨hash, hhash⟩ := ofName?_of_mem hname
  exact
    { clock := hclock
      signs := ⟨key, hkey, fun _ => ⟨_, (sign_eq_ok hhash).2 ⟨hsecret, rfl⟩⟩⟩
      expires := ⟨expiresAt, expiresAt, hexpiry, hwhole.ofSeconds?_seconds⟩ }

/-- **The round trip of a token.**  An issuer with a keyed algorithm and an audience,
whose tokens are good for a whole number of seconds and expire within the calendar,
issues them with every shared secret, and with no other key.  Whatever is said of the
holder, a decoder that checks no signatures and one that checks them with the same key
both find in a token the very claims that were issued; and it expires when the time
of the token is over, counted from the start of the second. -/
theorem issue_round_trip (issuer : Issuer) (now : Instant) (holder : Holder) (d : Desk) (key : Key)
    (seconds : Int) (hname : issuer.algorithm ∈ secretNames) (hkey : issuer.key = .ok key)
    (haudience : issuer.audience ≠ "") (hlifetime : issuer.lifetime = seconds * 1000000)
    (hclock : now.inCalendar = true)
    (hexpiry : Instant.inCalendar ⟨now.wholeSecond.micros + issuer.lifetime⟩ = true) :
    ((∃ issued d', issue issuer now holder d = .ok issued d') ↔ key.IsSecret) ∧
      ∀ issued d', issue issuer now holder d = .ok issued d' →
        (∃ tokenId, issued.claims = issuer.claims now issued.expiresAt tokenId holder) ∧
          (∀ library, (Decoder.make false none [] library).map (decode · issued.token) =
            .ok (.ok issued.claims)) ∧
          (∀ library, (Decoder.make true (some key) [issuer.algorithm] library).map
            (decode · issued.token) = .ok (.ok issued.claims)) ∧
          issued.expiresAt.micros = now.wholeSecond.micros + issuer.lifetime := by
  let expiresAt : Instant := ⟨now.wholeSecond.micros + issuer.lifetime⟩
  have hexpires : issuer.expiry? now = some expiresAt := if_pos hexpiry
  have hwhole : expiresAt.IsWhole := by
    refine Instant.isWhole_of_mod ?_ hexpiry
    simp only [expiresAt, Instant.wholeSecond, hlifetime]
    omega
  constructor
  · -- The keys with which tokens are issued are the shared secrets.
    constructor
    · rintro ⟨issued, d', h⟩
      exact isSecret_of_issue hname hkey h
    · intro hsecret
      obtain ⟨issued, hissue⟩ :=
        issue_of_works (works_of_isSecret hname hkey hsecret hclock hexpires hwhole) holder d
      exact ⟨issued, _, hissue⟩
  · intro issued d' h
    obtain ⟨key', tokenId, hkey', hexpires', hclaims, hencode⟩ := encode_of_issue h
    obtain rfl : key = key' := Except.ok.inj (hkey.symm.trans hkey')
    have hexp : expiresAt = issued.expiresAt := Option.some.inj (hexpires.symm.trans hexpires')
    have hportable : issued.claims.Portable :=
      hclaims ▸ Issuer.portable_claims haudience hclock (hexp ▸ hwhole) tokenId holder
    refine ⟨⟨tokenId, hclaims⟩, fun library => ?_, fun library => ?_, by rw [← hexp]⟩
    · exact congrArg Except.ok
        (decode_of_trusts hname hencode hportable (Decoder.trusts_of_key_eq_none rfl))
    · obtain ⟨decoder, hmake, htrusts⟩ :=
        Decoder.make_of_isSecret (isSecret_of_issue hname hkey h) issuer.algorithm library
      rw [hmake]
      exact congrArg Except.ok (decode_of_trusts hname hencode hportable htrusts)

namespace Scribe

/-- An issuer whose tokens are good for an hour. -/
def issuer : Issuer := ⟨"HS384", .ok (.text "secret"), 3600000000, "guild", "", {}⟩

/-- Somebody with a quotation mark, a backslash and a line feed in the name, and with
no email address. -/
def holder : Holder := ⟨"𝕦1", "\"ada\\\n", "", true⟩

end Scribe

open Scribe in
/-- The token of somebody with a strange name is issued and read back. -/
theorem issue_round_trip_scribe :
    issuer.algorithm ∈ secretNames ∧ issuer.audience ≠ "" ∧
      ∃ issued d', issue issuer ⟨1234567⟩ holder {} = .ok issued d' ∧
        (Decoder.make true (some (.text "secret")) ["HS384"]).map (decode · issued.token) =
          .ok (.ok issued.claims) ∧
        issued.claims.username = "\"ada\\\n" ∧ issued.expiresAt = ⟨3601000000⟩ := by
  have hname : issuer.algorithm ∈ secretNames := by decide
  have haudience : issuer.audience ≠ "" := by decide
  obtain ⟨haccepts, hround⟩ := issue_round_trip issuer ⟨1234567⟩ holder {} (.text "secret") 3600
    hname rfl haudience rfl (by decide) (by decide)
  obtain ⟨issued, d', hissue⟩ := haccepts.2 ⟨by decide, by decide⟩
  obtain ⟨⟨tokenId, hclaims⟩, -, hchecked, hexpiry⟩ := hround issued d' hissue
  refine ⟨hname, haudience, issued, d', hissue, hchecked {}, ?_, ?_⟩
  · rw [hclaims]
    rfl
  · exact congrArg Instant.mk hexpiry

end Registry

end Guildhall
