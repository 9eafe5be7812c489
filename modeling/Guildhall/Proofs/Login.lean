/-
Guildhall/Proofs/Login.lean

What a login token says.  Whatever decoder accepts the token of a login finds
in it the id, the name, the email address and the rights that the user had
at that moment; and the token can be carried in a header.

Main statements: `Registry.claims_of_issueFor` and `Registry.credential_issueFor`.
-/
import Guildhall.Proofs.Bearer
import Guildhall.Proofs.Completion
import Guildhall.Proofs.Payload
import Guildhall.Proofs.Token

namespace Guildhall

open Codec

variable {issuer : Token.Issuer} {now : Instant}

namespace Token

/-- The text of an encoded token is not empty and has no white space in it. -/
theorem isBlank_of_encode {library : Library} {algorithm : String} {key : Key}
    {payload : List (String × Value)} {token : String}
    (h : encode library algorithm key payload = .ok token) :
    token ≠ "" ∧ ∀ c ∈ token.toList, Text.isBlank c = false := by
  obtain ⟨signature, -, rfl⟩ := encode_eq_ok.1 h
  -- A token consists of symbols and points.
  have hsymbols : ∀ bytes, ∀ c ∈ Base64Url.encode bytes, Text.isBlank c = false := fun bytes c hc =>
    Base64Url.isBlank_of_value? (Base64Url.value?_of_mem_encode bytes c hc)
  constructor
  · intro hempty
    have hlist := congrArg String.toList hempty
    rw [String.toList_ofList] at hlist
    exact List.append_ne_nil_of_right_ne_nil _ (List.cons_ne_nil _ _) hlist
  · intro c hc
    rw [String.toList_ofList, signingInput] at hc
    simp only [List.mem_append, List.mem_cons] at hc
    rcases hc with (hc | rfl | hc) | rfl | hc
    · exact hsymbols _ c hc
    · rfl
    · exact hsymbols _ c hc
    · rfl
    · exact hsymbols _ c hc

/-- A signed token is the encoded payload of its claims. -/
theorem Issuer.sign_eq_ok {claims : Claims} {issued : Issued}
    (h : issuer.sign claims = .ok issued) :
    ∃ key, issuer.key = .ok key ∧
      encode issuer.library issuer.algorithm key claims.payload = .ok issued.token ∧
      issued.claims = claims ∧ issued.expiresAt = claims.expiresAt := by
  obtain ⟨key, hkey, h⟩ := Except.bind_eq_ok.1 h
  obtain ⟨token, htoken, h⟩ := Except.bind_eq_ok.1 h
  obtain rfl := Except.ok.inj h
  exact ⟨key, hkey, htoken, rfl, rfl⟩

/-- The payload of a token that is issued now can be read back. -/
theorem Issuer.clear_claims {expiresAt : Instant} (hclock : now.inCalendar = true)
    (hexpiry : issuer.expiry? now = some expiresAt) (tokenId : String) (holder : Holder) :
    Json.Clear Json.nestingLimit
      (.object (issuer.claims now expiresAt tokenId holder).payload) := by
  have hstart : ∀ t ∈ some now.wholeSecond, t.inCalendar = true := fun t ht =>
    Option.mem_some.1 ht ▸ Instant.inCalendar_wholeSecond hclock
  exact Claims.clear_payload (Instant.inCalendar_of_ofMicros? hexpiry) hstart hstart

/-- **When the claims of a new token can be read back**: if the calendar has the seconds
at which the token expires. -/
theorem Issuer.exists_ofFields_claims_iff (hclock : now.inCalendar = true) {expiresAt : Instant}
    {tokenId : String} {holder : Holder} :
    (∃ c, Claims.ofFields (issuer.claims now expiresAt tokenId holder).payload = .ok c) ↔
      ∃ t, Instant.ofSeconds? expiresAt.seconds = some t := by
  -- The token is dated from the start of the second, which is read back exactly.
  have hstart := Claims.instantOf_whole_eq_ok.2
    (Instant.ofSeconds?_wholeSecond (Instant.inCalendar_wholeSecond hclock))
  have hissued : Claims.optionalInstant ((some now.wholeSecond).map fun t => .whole t.seconds) =
      .ok (some now.wholeSecond) := by
    show (Claims.instantOf _).map some = _
    rw [hstart]
    rfl
  rw [Claims.ofFields_payload]
  show (∃ c, (Claims.instantOf (.whole expiresAt.seconds) >>= fun _ =>
    Claims.optionalInstant ((some now.wholeSecond).map fun t => .whole t.seconds) >>= fun _ =>
    Claims.optionalInstant ((some now.wholeSecond).map fun t => .whole t.seconds) >>= fun _ =>
    _) = .ok c) ↔ _
  constructor
  · rintro ⟨c, hc⟩
    obtain ⟨t, ht, -⟩ := Except.bind_eq_ok.1 hc
    exact ⟨t, Claims.instantOf_whole_eq_ok.1 ht⟩
  · rintro ⟨t, ht⟩
    rw [Claims.instantOf_whole_eq_ok.2 ht, hissued]
    exact ⟨_, rfl⟩

end Token

namespace Registry

variable {u : User} {l : Login} {d d' : Desk}

/-- A token that is issued is the encoded payload of its claims, which are those of the
holder. -/
theorem encode_of_issue {holder : Token.Holder} {issued : Token.Issued}
    (h : issue issuer now holder d = .ok issued d') :
    ∃ key tokenId, issuer.key = .ok key ∧ issuer.expiry? now = some issued.expiresAt ∧
      issued.claims = issuer.claims now issued.expiresAt tokenId holder ∧
      Token.encode issuer.library issuer.algorithm key issued.claims.payload =
        .ok issued.token := by
  obtain ⟨expiresAt, tokenId, hexpiry, hsign, -⟩ := issue_eq_ok h
  obtain ⟨key, hkey, htoken, hclaims, hexpires⟩ := Token.Issuer.sign_eq_ok hsign
  obtain rfl : issued.expiresAt = expiresAt := hexpires
  exact ⟨key, tokenId, hkey, hexpiry, hclaims, hclaims ▸ htoken⟩

/-- A token that is issued for a user is the encoded payload of claims that name the
user. -/
theorem encode_of_issueFor (h : issueFor issuer now u d = .ok l d') :
    ∃ key tokenId, issuer.key = .ok key ∧ issuer.expiry? now = some l.expiresAt ∧
      Token.encode issuer.library issuer.algorithm key (issuer.claims now l.expiresAt tokenId
        ⟨u.id, u.name, u.email, u.isAdmin⟩).payload = .ok l.token := by
  obtain ⟨issued, hissue, rfl⟩ := issueFor_eq_ok h
  obtain ⟨key, tokenId, hkey, hexpiry, hclaims, htoken⟩ := encode_of_issue hissue
  exact ⟨key, tokenId, hkey, hexpiry, hclaims ▸ htoken⟩

/-- **The token of a login can be carried in a header.** -/
theorem credential_issueFor (h : issueFor issuer now u d = .ok l d') :
    Bearer.credential (some (Bearer.header l.token)) = .ok l.token := by
  obtain ⟨key, tokenId, -, -, htoken⟩ := encode_of_issueFor h
  obtain ⟨hne, hblank⟩ := Token.isBlank_of_encode htoken
  exact Bearer.credential_header hne hblank

/-- The library breaks down at the token of no login. -/
theorem breaksAt_of_issueFor (h : issueFor issuer now u d = .ok l d')
    (hclock : now.inCalendar = true) {decoder : Token.Decoder} {fault : Token.Fault}
    (hfault : Token.decode decoder l.token = .error fault) : decoder.breaksAt fault = false := by
  obtain ⟨key, tokenId, -, hexpiry, htoken⟩ := encode_of_issueFor h
  exact Token.breaksAt_of_encode htoken
    (Token.Issuer.clear_claims hclock hexpiry tokenId _) hfault

/-- Whoever accepts the token of a login reads the payload that was encoded. -/
theorem ofFields_of_issueFor (h : issueFor issuer now u d = .ok l d')
    (hclock : now.inCalendar = true) {decoder : Token.Decoder} {c : Claims}
    (hdecode : Token.decode decoder l.token = .ok c) :
    ∃ tokenId, Claims.ofFields (issuer.claims now l.expiresAt tokenId
      ⟨u.id, u.name, u.email, u.isAdmin⟩).payload = .ok c := by
  obtain ⟨key, tokenId, -, hexpiry, htoken⟩ := encode_of_issueFor h
  obtain ⟨signature, -, hjudge⟩ := Token.decode_encode htoken
    (Token.Issuer.clear_claims hclock hexpiry tokenId _) decoder
  rw [hjudge] at hdecode
  exact ⟨tokenId, Token.ofFields_of_judge hdecode⟩

/-- **Whoever accepts the token of a login finds the user in it.** -/
theorem claims_of_issueFor (h : issueFor issuer now u d = .ok l d')
    (hclock : now.inCalendar = true) {decoder : Token.Decoder} {c : Claims}
    (hdecode : Token.decode decoder l.token = .ok c) :
    c.userId = u.id ∧ c.username = u.name ∧ c.userEmail = u.email ∧ c.isAdmin = u.isAdmin := by
  obtain ⟨tokenId, hfields⟩ := ofFields_of_issueFor h hclock hdecode
  have hread := Claims.ofFields_eq_ok.1 hfields
  have hid := (Claims.readText_payload rfl).symm.trans hread.userId
  have hname := (Claims.readText_payload rfl).symm.trans hread.username
  have hemail := (Claims.readText_payload rfl).symm.trans hread.userEmail
  have hadmin := (Claims.readAdmin_payload _).symm.trans hread.isAdmin
  exact ⟨(Except.ok.inj hid).symm, (Except.ok.inj hname).symm, (Except.ok.inj hemail).symm,
    (Except.ok.inj hadmin).symm⟩

/-- Whoever accepts the token of a login finds no other audience in it than the
issuer's. -/
theorem audience_of_issueFor (h : issueFor issuer now u d = .ok l d')
    (hclock : now.inCalendar = true) {decoder : Token.Decoder} {c : Claims}
    (hdecode : Token.decode decoder l.token = .ok c) : ∀ a ∈ c.audience, a = issuer.audience := by
  obtain ⟨tokenId, hfields⟩ := ofFields_of_issueFor h hclock hdecode
  have haudience := (Claims.ofFields_eq_ok.1 hfields).audience
  rw [Claims.readAudience_payload] at haudience
  rw [← Except.ok.inj haudience]
  intro a ha
  split at ha
  · cases ha
  · exact List.mem_singleton.1 ha

/-- Whoever accepts the token of a login finds in it when the token expires, as far as
whole seconds can say it. -/
theorem expiresAt_of_issueFor (h : issueFor issuer now u d = .ok l d')
    (hclock : now.inCalendar = true) {decoder : Token.Decoder} {c : Claims}
    (hdecode : Token.decode decoder l.token = .ok c) :
    Instant.ofSeconds? l.expiresAt.seconds = some c.expiresAt := by
  obtain ⟨tokenId, hfields⟩ := ofFields_of_issueFor h hclock hdecode
  rw [Claims.ofFields_payload] at hfields
  obtain ⟨expiresAt, hexpires, hfields⟩ := Except.bind_eq_ok.1 hfields
  obtain ⟨_, -, hfields⟩ := Except.bind_eq_ok.1 hfields
  obtain ⟨_, -, hfields⟩ := Except.bind_eq_ok.1 hfields
  obtain rfl := Except.ok.inj hfields
  exact Claims.instantOf_whole_eq_ok.1 hexpires

/-- **A decoder that checks no signatures accepts the token of every login**, as long
as the calendar has the seconds at which the token expires. -/
theorem decode_issueFor (h : issueFor issuer now u d = .ok l d') (hclock : now.inCalendar = true)
    {expiresAt end' : Instant} (hexpiry : issuer.expiry? now = some expiresAt)
    (hend : Instant.ofSeconds? expiresAt.seconds = some end') {decoder : Token.Decoder}
    (hkey : decoder.key = none) : ∃ c, Token.decode decoder l.token = .ok c := by
  obtain ⟨key, tokenId, -, ht, htoken⟩ := encode_of_issueFor h
  obtain rfl : expiresAt = l.expiresAt := Option.some.inj (hexpiry.symm.trans ht)
  obtain ⟨signature, -, hjudge⟩ := Token.decode_encode htoken
    (Token.Issuer.clear_claims hclock hexpiry tokenId _) decoder
  obtain ⟨c, hc⟩ := (Token.Issuer.exists_ofFields_claims_iff hclock).2 ⟨end', hend⟩
  unfold Token.judge at hjudge
  rw [hkey] at hjudge
  dsimp only at hjudge
  rw [hjudge, hc]
  exact ⟨c, rfl⟩

end Registry

end Guildhall
