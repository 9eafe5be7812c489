/-
Guildhall/Proofs/Authentication.lean

What a login comes to.  A key and a password are right if neither is empty, the key means a
user, by id, else by name, else by email address, and the digest of the password is the one
that is kept of the user:

    right  ↔  key ≠ ""  ∧  password ≠ ""  ∧  ∃ u, userByKey? key = some u ∧ u.password = hash.

Then a token is issued for the user, if the calendar has the instant at which it expires, and
whoever accepts the token finds the user in it.  In every other case the failure is one and the
same, so it does not tell what was wrong.

The answer says when the token expires to the microsecond, and the token only to the second.
So the two agree if and only if tokens are good for a whole number of seconds.

Main statement: `login_complete`.
-/
import Guildhall.Proofs.Commuting
import Guildhall.Proofs.Escape
import Guildhall.Proofs.Lifetime

namespace Guildhall

open Session

/-- A decoder that fits an issuer checks no signatures, or it checks them with the secret of
the issuer. -/
def Token.Decoder.Fits (decoder : Token.Decoder) (issuer : Token.Issuer) : Prop :=
  decoder.key = none ∨ ∃ key, issuer.key = .ok key ∧ issuer.algorithm ∈ Token.secretNames ∧
    decoder.Trusts issuer.algorithm key

namespace Registry

variable {issuer : Token.Issuer} {m : Moment} {d : Desk} {u : User} {key password : String}

/-- **Every wrong login fails in one way**, at a desk where nothing goes wrong: without a key
or a password, with a key that means nobody, and with another password. -/
theorem login_wrong (hd : d.Ready)
    (hdigests : ∀ u ∈ d.store.users, ∃ p, u.password = hashPassword p)
    (hwrong : ∀ u, ¬RightLogin d.store u key password) :
    login issuer m (.text key) (.text password) d = .error (.failure badLogin) d := by
  by_cases hkey : key = ""
  · subst hkey
    rfl
  have hkeyHolds : (Value.text key).holds = true := by simp [Value.holds, hkey]
  by_cases hpassword : password = ""
  · subst hpassword
    unfold login
    rw [hkeyHolds]
    rfl
  have hpasswordHolds : (Value.text password).holds = true := by simp [Value.holds, hpassword]
  rw [login_of_lookup hd hkeyHolds hpasswordHolds rfl]
  cases huser : d.store.userByKey? key with
  | none => rfl
  | some u =>
    obtain ⟨p, hp⟩ := hdigests u (Store.mem_of_userByKey? huser)
    have hne : hashPassword p ≠ hashPassword password := fun hsame =>
      hwrong u ⟨hkey, hpassword, huser, hp.trans hsame⟩
    have hcheck := checkPassword_of_digest hp password
    rw [beq_false_of_ne hne] at hcheck
    exact passed_ready hcheck

example : badLogin.message = "Invalid login/password" := rfl

/-- A login that is answered is a right one, and a token is issued for the user. -/
theorem rightLogin_of_login {l : Login} {d' : Desk}
    (hdigests : ∀ u ∈ d.store.users, ∃ p, u.password = hashPassword p)
    (h : login issuer m (.text key) (.text password) d = .ok l d') :
    ∃ u d₁, RightLogin d.store u key password ∧ issueFor issuer m.now u d₁ = .ok l d' := by
  obtain ⟨u, d₁, hcredentials, hissue⟩ := credentials_of_login h
  obtain ⟨k, hk, huser⟩ := hcredentials.means
  obtain rfl : key = k := Option.some.inj (Except.ok.inj hk)
  obtain ⟨p, hp⟩ := hdigests u (Store.mem_of_userByKey? huser)
  have hright := hcredentials.recognized
  rw [checkPassword_of_digest hp, Except.ok.injEq, beq_iff_eq] at hright
  refine ⟨u, d₁, ⟨?_, ?_, huser, hp.trans hright⟩, hissue⟩
  · simpa [Value.holds] using hcredentials.keyHolds
  · simpa [Value.holds] using hcredentials.passwordHolds

/-- **When a login is answered**, at a desk where nothing goes wrong and by an issuer whose key
signs: if it is right, and the calendar has the instant at which the token expires. -/
theorem login_answered_iff (hd : d.Ready) (hsigns : issuer.Signs)
    (hdigests : ∀ u ∈ d.store.users, ∃ p, u.password = hashPassword p) :
    (∃ l d', login issuer m (.text key) (.text password) d = .ok l d') ↔
      (∃ u, RightLogin d.store u key password) ∧ issuer.expiry? m.now ≠ none := by
  constructor
  · rintro ⟨l, d', h⟩
    obtain ⟨u, d₁, hright, hissue⟩ := rightLogin_of_login hdigests h
    obtain ⟨_, _, -, hexpiry, -⟩ := encode_of_issueFor hissue
    exact ⟨⟨u, hright⟩, by simp [hexpiry]⟩
  · rintro ⟨⟨u, hright⟩, hexpiry⟩
    obtain ⟨expiresAt, hexpiresAt⟩ := Option.ne_none_iff_exists'.1 hexpiry
    obtain ⟨l, d', hlogin, -⟩ := login_of_right hd hsigns hexpiresAt hright
    exact ⟨l, d', hlogin⟩

/-! ### What the token says -/

section Tokens

variable {now : Instant} {l : Login} {d' : Desk} {decoder : Token.Decoder}

/-- **The answer and the token agree on when the token expires** if and only if tokens are
good for a whole number of seconds. -/
theorem expiresAt_eq_iff (h : issueFor issuer now u d = .ok l d') (hclock : now.inCalendar = true)
    {c : Claims} (hdecode : Token.decode decoder l.token = .ok c) :
    c.expiresAt = l.expiresAt ↔ 1000000 ∣ issuer.lifetime := by
  obtain ⟨_, _, -, hexpiry, -⟩ := encode_of_issueFor h
  have hread := expiresAt_of_issueFor h hclock hdecode
  constructor
  · intro heq
    -- What is read back is a number of seconds, and so is the start of the lifetime.
    have hlast := congrArg Instant.micros (Token.Issuer.expiry?_eq_some.1 hexpiry).1
    have hseconds := congrArg Instant.micros (Instant.ofMicros?_eq_some.1 hread).1
    rw [heq, hlast] at hseconds
    change now.micros - now.micros % 1000000 + issuer.lifetime =
      l.expiresAt.seconds * 1000000 at hseconds
    omega
  · intro hwhole
    have hback := (Token.Issuer.isWhole_of_expiry? hexpiry hwhole).ofSeconds?_seconds
    exact Option.some.inj (hread.symm.trans hback)

/-- **When the token of a login can be read** by a decoder that fits the issuer: if it is
dated. -/
theorem exists_decode_iff_of_fits (h : issueFor issuer now u d = .ok l d')
    (hclock : now.inCalendar = true) (hfits : decoder.Fits issuer) :
    (∃ c, Token.decode decoder l.token = .ok c) ↔ l.IsDated := by
  rcases hfits with hkey | ⟨key, hkey, hname, htrusts⟩
  · constructor
    · rintro ⟨c, hdecode⟩
      exact ⟨c.expiresAt, expiresAt_of_issueFor h hclock hdecode⟩
    · rintro ⟨t, ht⟩
      obtain ⟨_, _, -, hexpiry, -⟩ := encode_of_issueFor h
      exact decode_issueFor h hclock hexpiry ht hkey
  · exact exists_decode_iff_isDated h hclock hkey hname htrusts

end Tokens

end Registry

/-! ### The call -/

/-- A call that only looks leaves the store as it was, however it ends. -/
theorem Service.store_of_looks (service : Service) (m : Moment) (d : Desk) {call : Call}
    (hlooks : call.looks = true) : (left (service.perform m call d)).store = d.store := by
  cases h : service.perform m call d with
  | ok answer d' => exact (deed_of_perform h).eq_of_looks hlooks
  | error stop d' => exact (service.atomic_perform m call d stop d' h).store

/-- **What a login comes to.**  A run from empty tables has reached the store of a desk at
which nothing goes wrong, the clock shows an instant of the calendar, and the key of the
issuer signs.  A login with two texts is answered if and only if they are right and the
calendar has the instant at which the token expires.  If they are not right, it fails as every
other wrong login does, and nothing at all is changed; if they are, and there is no such
instant, then the sum overflows.  However it ends, the store is as it was.  An answer is for
the user whom the key means, and whatever decoder accepts the token finds that user in it,
with the rights that the answer tells; what it finds of the expiry is what the answer tells if
and only if tokens are good for a whole number of seconds, and then every decoder that fits
the issuer accepts the token. -/
theorem login_complete (service : Service) (desk : Desk) (steps : List Step) (m : Moment) {d : Desk}
    (hstore : d.store = (service.run { desk with store := {} } steps).store) (hd : d.Ready)
    (hclock : m.now.inCalendar = true) (hsigns : service.issuer.Signs) (key password : String) :
    let login := service.perform m (.login (.text key) (.text password)) d
    ((∃ l d', login = .ok (.login l) d') ↔
      (∃ u, Registry.RightLogin d.store u key password) ∧ service.issuer.expiry? m.now ≠ none) ∧
    ((∀ u, ¬Registry.RightLogin d.store u key password) →
      login = .error (.failure Registry.badLogin) d) ∧
    (∀ u, Registry.RightLogin d.store u key password → service.issuer.expiry? m.now = none →
      login = .error .overflow d) ∧
    (left login).store = d.store ∧
    ∀ l d', login = .ok (.login l) d' → ∃ u, Registry.RightLogin d.store u key password ∧
      l.isAdmin = u.isAdmin ∧ service.issuer.expiry? m.now = some l.expiresAt ∧
      (∀ decoder c, Token.decode decoder l.token = .ok c →
        c.userId = u.id ∧ c.username = u.name ∧ c.userEmail = u.email ∧ c.isAdmin = l.isAdmin ∧
          (c.expiresAt = l.expiresAt ↔ 1000000 ∣ service.issuer.lifetime)) ∧
      (∀ decoder : Token.Decoder, decoder.Fits service.issuer →
        ((∃ c, Token.decode decoder l.token = .ok c) ↔ l.IsDated)) ∧
      (1000000 ∣ service.issuer.lifetime → l.IsDated) := by
  intro login
  have past : Chronicle {} (service.history { desk with store := {} } steps) d.store :=
    hstore ▸ service.chronicle { desk with store := {} } steps
  have hdigests := past.password_digest
  refine ⟨?_, ?_, ?_, service.store_of_looks m d rfl, ?_⟩
  · rw [← Registry.login_answered_iff hd hsigns hdigests]
    constructor
    · rintro ⟨l, d', h⟩
      obtain ⟨l', hlogin, -⟩ := answer_eq_ok h
      exact ⟨l', d', hlogin⟩
    · rintro ⟨l, d', h⟩
      exact ⟨l, d', bind_ready h⟩
  · intro hwrong
    exact bind_stopped (Registry.login_wrong hd hdigests hwrong)
  · intro u hright hexpiry
    apply bind_stopped
    rw [Registry.login_of_credentials hd hright.credentials]
    exact Registry.issueFor_of_expiry hexpiry
  · intro l d' h
    obtain ⟨l', hlogin, hl⟩ := answer_eq_ok h
    obtain rfl := Answer.login.inj hl
    obtain ⟨u, d₁, hright, hissue⟩ := Registry.rightLogin_of_login hdigests hlogin
    obtain ⟨_, _, -, hexpiry, -⟩ := Registry.encode_of_issueFor hissue
    have hadmin : l.isAdmin = u.isAdmin := by
      obtain ⟨_, _, rfl⟩ := Registry.issueFor_eq_ok hissue
      rfl
    refine ⟨u, hright, hadmin, hexpiry, fun decoder c hdecode => ?_,
      fun decoder => Registry.exists_decode_iff_of_fits hissue hclock,
      Registry.isDated_of_dvd hissue⟩
    obtain ⟨hid, hname, hemail, hrights⟩ := Registry.claims_of_issueFor hissue hclock hdecode
    exact ⟨hid, hname, hemail, hrights.trans hadmin.symm,
      Registry.expiresAt_eq_iff hissue hclock hdecode⟩

namespace Porch

/-- Somebody has registered. -/
def steps : List Step := [⟨noon, registration "pw"⟩]

/-- A service whose tokens are good for so many microseconds. -/
def granting (lifetime : Int) : Service :=
  { service with issuer := { service.issuer with lifetime } }

theorem run_steps (lifetime : Int) :
    left.store = ((granting lifetime).run { desk with store := {} } steps).store :=
  .symm (congrArg (·.store) ((granting lifetime).run_ada noon.now "u1" "s1" [] []))

theorem signs (lifetime : Int) : (granting lifetime).issuer.Signs := works.signs

theorem rightLogin_ada : Registry.RightLogin left.store ada "ada" "pw" :=
  ⟨by decide, by decide, rfl, digest_pw.symm⟩

end Porch

open Porch in
/-- A user logs in under the name for an hour, and nobody logs in as somebody who is not
there. -/
theorem login_complete_porch :
    (∃ l d', (granting 3600000000).perform noon (.login (.text "ada") (.text "pw")) left =
        .ok (.login l) d' ∧
      ∃ c, Token.decode {} l.token = .ok c ∧ c.userId = "u1" ∧ c.expiresAt = l.expiresAt) ∧
    (granting 3600000000).perform noon (.login (.text "eve") (.text "pw")) left =
      .error (.failure Registry.badLogin) left := by
  have hlogin := login_complete (granting 3600000000) desk steps noon (run_steps _) ⟨rfl, rfl, rfl⟩
    (by decide) (signs _)
  constructor
  · obtain ⟨hanswered, -, -, -, htells⟩ := hlogin "ada" "pw"
    obtain ⟨l, d', h⟩ := hanswered.2 ⟨⟨ada, rightLogin_ada⟩, by decide⟩
    obtain ⟨u, hright, -, -, hclaims, hreads, hdated⟩ := htells l d' h
    obtain rfl : ada = u := Option.some.inj (rightLogin_ada.means.symm.trans hright.means)
    have hwhole : (1000000 : Int) ∣ 3600000000 := ⟨3600, rfl⟩
    obtain ⟨c, hdecode⟩ := (hreads {} (.inl rfl)).2 (hdated hwhole)
    obtain ⟨hid, -, -, -, hexpires⟩ := hclaims {} c hdecode
    exact ⟨l, d', h, c, hdecode, hid, hexpires.2 hwhole⟩
  · refine (hlogin "eve" "pw").2.1 fun u hright => ?_
    cases hright.means

open Porch in
/-- The answer to the right login and its token do not agree on when the token expires, if
tokens are good for an hour and half a second. -/
theorem login_expiry_differs :
    left.store = ((granting 3600500000).run { desk with store := {} } steps).store ∧
      left.Ready ∧ (granting 3600500000).issuer.Signs ∧
      Registry.RightLogin left.store ada "ada" "pw" ∧
      ∃ l d, (granting 3600500000).perform noon (.login (.text "ada") (.text "pw")) left =
          .ok (.login l) d ∧
        (∃ c, Token.decode {} l.token = .ok c) ∧
        ∀ decoder c, Token.decode decoder l.token = .ok c → c.expiresAt ≠ l.expiresAt := by
  have hexpiry : (granting 3600500000).issuer.expiry? noon.now = some ⟨3601500000⟩ := rfl
  have hready : left.Ready := ⟨rfl, rfl, rfl⟩
  obtain ⟨l, d, hlogin, hissue⟩ :=
    Registry.login_of_right (m := noon) hready (signs _) hexpiry rightLogin_ada
  have hclock : noon.now.inCalendar = true := by decide
  refine ⟨run_steps _, hready, signs _, rightLogin_ada, l, d, bind_ready hlogin, ?_, ?_⟩
  · -- The second in which the token expires is one of the calendar.
    have hend : Instant.ofSeconds? (Instant.seconds ⟨3601500000⟩) = some ⟨3601000000⟩ := by decide
    exact Registry.decode_issueFor hissue hclock hexpiry hend rfl
  · intro decoder c hdecode hsame
    have hwhole := (Registry.expiresAt_eq_iff hissue hclock hdecode).1 hsame
    exact absurd hwhole (by decide)

end Guildhall
