/-
Guildhall/Proofs/Registration.lean

Who has registered can log in, but not always with the same password.  What is
kept of a user at a registration is the digest of the password without the white
space around it; a login looks at the digest of the password as it is given.  So
a newcomer is recognized by the trimmed password, and by the very password of the
registration if and only if trimming does not change its digest:

    Recognizes d now r p  ↔  hashPassword p = hashPassword (strip p)

Main statements: `Registry.login_ready_iff` and `recognizes_newcomer_iff`.
-/
import Guildhall.Proofs.Arrival
import Guildhall.Proofs.Input
import Guildhall.Proofs.Integrity
import Guildhall.Proofs.RoundTrip

namespace Guildhall

open Session

/-! ### Passwords -/

namespace Registry

/-- Digests are written in ASCII. -/
theorem isAscii_hashPassword (password : String) : Text.IsAscii (hashPassword password).toList := by
  intro c hc
  unfold hashPassword Text.hexBytes at hc
  rw [String.toList_ofList] at hc
  obtain ⟨b, -, hc⟩ := List.mem_flatMap.1 hc
  exact Json.isAscii_hexDigits 2 b.toNat c hc

/-- The password of a user is checked by its digest. -/
theorem checkPassword_of_digest {u : User} {p : String} (hdigest : u.password = hashPassword p)
    (q : String) : checkPassword u (.text q) = .ok (hashPassword p == hashPassword q) := by
  have hascii : u.password.toList.all (·.toNat < 128) = true := by
    rw [List.all_eq_true, hdigest]
    exact fun c hc => decide_eq_true (isAscii_hashPassword p c hc).2
  unfold checkPassword
  show (if u.password.toList.all (·.toNat < 128) = true then
    .ok (u.password == hashPassword q) else throw .badCall : Except Stop Bool) = _
  rw [if_pos hascii, hdigest]

/-! ### Logins -/

section Logins

variable {issuer : Token.Issuer} {m : Moment} {d : Desk} {u : User} {key p q : String}

/-- An issuer whose key signs issues a token for every user who logs in. -/
theorem issueFor_of_signs {expiresAt : Instant} (h : issuer.Signs)
    (hexpiry : issuer.expiry? m.now = some expiresAt) (u : User) (d : Desk) :
    ∃ l d', issueFor issuer m.now u d = .ok l d' := by
  obtain ⟨issued, hissue⟩ := issue_of_signs h hexpiry ⟨u.id, u.name, u.email, u.isAdmin⟩ d
  unfold issueFor
  dsimp only
  rw [hissue]
  exact ⟨_, _, rfl⟩

/-- Credentials of a user: a key that means the user, and a password with the digest that
is kept.  Neither is empty. -/
structure Credentials (s : Store) (u : User) (key password : Value) : Prop where
  keyHolds : key.holds = true
  passwordHolds : password.holds = true
  means : ∃ k, lookupText key = .ok (some k) ∧ s.userByKey? k = some u
  recognized : checkPassword u password = .ok true

/-- Credentials are of one user. -/
theorem Credentials.unique {s : Store} {u v : User} {key password : Value}
    (hu : Credentials s u key password) (hv : Credentials s v key password) : u = v := by
  obtain ⟨k, hk, huser⟩ := hu.means
  obtain ⟨k', hk', huser'⟩ := hv.means
  obtain rfl : k = k' := Option.some.inj (Except.ok.inj (hk.symm.trans hk'))
  exact Option.some.inj (huser.symm.trans huser')

/-- A login that is answered was made with credentials of the user for whom the token is
issued. -/
theorem credentials_of_login {key password : Value} {l : Login} {d' : Desk}
    (h : login issuer m key password d = .ok l d') :
    ∃ u d₁, Credentials d.store u key password ∧ issueFor issuer m.now u d₁ = .ok l d' := by
  obtain ⟨k, u, d₁, hk, huser, hcheck, -, hissue⟩ := login_eq_ok h
  unfold login at h
  obtain ⟨hholds, -⟩ := guard_eq_ok.1 h
  simp only [Bool.or_eq_true, Bool.not_eq_true', not_or, Bool.not_eq_false] at hholds
  exact ⟨u, d₁, ⟨hholds.1, hholds.2, ⟨k, hk, huser⟩, hcheck⟩, hissue⟩

/-- The storage is asked for the user whom a key means. -/
theorem lookup_ready {key : Value} {k : String} (hd : d.Ready)
    (hk : lookupText key = .ok (some k)) :
    transaction (do
      let key ← lookupText key
      return key.bind (← store).userByKey?) d = .ok (d.store.userByKey? k) d := by
  refine transaction_ready hd ?_ hd
  rw [passed_ready hk, bind_ready (store_ready hd)]
  rfl

/-- A login with a key and a password comes to the user whom the key means. -/
theorem login_of_lookup {key password : Value} {k : String} (hd : d.Ready)
    (hkey : key.holds = true) (hpassword : password.holds = true)
    (hk : lookupText key = .ok (some k)) :
    login issuer m key password d =
      (match d.store.userByKey? k with
        | some user => do
          if !(← checkPassword user password) then fail badLogin
          issueFor issuer m.now user
        | none => fail badLogin : Session Login) d := by
  unfold login
  rw [hkey, hpassword]
  refine (bind_ready (reporting_ready (lookup_ready hd hk))).trans ?_
  cases d.store.userByKey? k <;> rfl

/-- A login with credentials comes to the issue of a token. -/
theorem login_of_credentials {key password : Value} (hd : d.Ready)
    (h : Credentials d.store u key password) :
    login issuer m key password d = issueFor issuer m.now u d := by
  obtain ⟨k, hk, huser⟩ := h.means
  rw [login_of_lookup hd h.keyHolds h.passwordHolds hk, huser]
  exact passed_ready h.recognized

/-- Credentials are answered with a token, at a desk where nothing goes wrong. -/
theorem login_ready {key password : Value} (hd : d.Ready) (hworks : issuer.Works m.now)
    (h : Credentials d.store u key password) :
    ∃ l d', login issuer m key password d = .ok l d' := by
  obtain ⟨expiresAt, -, hexpiry, -⟩ := hworks.expires
  obtain ⟨l, d', hissue⟩ := issueFor_of_signs hworks.signs hexpiry u d
  exact ⟨l, d', (login_of_credentials hd h).trans hissue⟩

/-- A key that means a user and the password of the user, neither of them empty. -/
structure RightLogin (s : Store) (u : User) (key password : String) : Prop where
  key_ne : key ≠ ""
  password_ne : password ≠ ""
  means : s.userByKey? key = some u
  digest : u.password = hashPassword password

/-- Right keys and passwords are credentials. -/
theorem RightLogin.credentials {s : Store} (h : RightLogin s u key p) :
    Credentials s u (.text key) (.text p) where
  keyHolds := by simp [Value.holds, h.key_ne]
  passwordHolds := by simp [Value.holds, h.password_ne]
  means := ⟨key, rfl, h.means⟩
  recognized := by rw [checkPassword_of_digest h.digest, beq_self_eq_true]

/-- A right login is answered with a token that is issued for the user, if the key of the
issuer signs and the calendar has the instant at which the token expires. -/
theorem login_of_right {expiresAt : Instant} (hd : d.Ready) (hsigns : issuer.Signs)
    (hexpiry : issuer.expiry? m.now = some expiresAt) (h : RightLogin d.store u key p) :
    ∃ l d', login issuer m (.text key) (.text p) d = .ok l d' ∧
      issueFor issuer m.now u d = .ok l d' := by
  obtain ⟨l, d', hissue⟩ := issueFor_of_signs hsigns hexpiry u d
  exact ⟨l, d', (login_of_credentials hd h.credentials).trans hissue, hissue⟩

/-- **When a login is answered** at a desk where nothing goes wrong: the password that is
given has the digest that is kept. -/
theorem login_ready_iff (hd : d.Ready) (hworks : issuer.Works m.now) (hkey : key ≠ "")
    (huser : d.store.userByKey? key = some u) (hdigest : u.password = hashPassword p) :
    (∃ l d', login issuer m (.text key) (.text q) d = .ok l d') ↔
      q ≠ "" ∧ hashPassword q = hashPassword p := by
  constructor
  · rintro ⟨l, d', h⟩
    obtain ⟨u', _, hcredentials, -⟩ := credentials_of_login h
    obtain ⟨k, hk, huser'⟩ := hcredentials.means
    obtain rfl : key = k := Option.some.inj (Except.ok.inj hk)
    obtain rfl : u = u' := Option.some.inj (huser.symm.trans huser')
    have hcheck := hcredentials.recognized
    rw [checkPassword_of_digest hdigest, Except.ok.injEq, beq_iff_eq] at hcheck
    have hq : q ≠ "" := by simpa [Value.holds] using hcredentials.passwordHolds
    exact ⟨hq, hcheck.symm⟩
  · rintro ⟨hq, hsame⟩
    exact login_ready hd hworks
      (RightLogin.credentials ⟨hkey, hq, huser, hdigest.trans hsame.symm⟩)

end Logins

end Registry

/-! ### Newcomers -/

section Newcomers

variable {m : Moment} {s s' : Store} {name email password : Value} {r : Registry.Profile}

/-- **What a registration leaves behind**: the id of the profile means a user with that
profile, and what is kept is the digest of the trimmed password. -/
theorem Deed.newcomer (hdeed : Deed m s (.register name email password) (.profile r) s')
    (hs : s.Sound) :
    ∃ p u, password = .text p ∧ Text.strip p ≠ "" ∧ s'.userByKey? r.id = some u ∧
      r = Registry.profile u ∧ u.password = Registry.hashPassword (Text.strip p) := by
  have hs' : s'.Sound := .deed hdeed hs
  cases hdeed with
  | look hlooks => cases hlooks
  | register _ _ hpassword _ hbytes huser hstats =>
    obtain ⟨-, -, -, rfl⟩ := Store.insertUser_eq_ok.1 huser
    obtain ⟨-, -, -, rfl⟩ := Store.insertStats_eq_ok.1 hstats
    obtain ⟨p, hp, rfl, hne, -⟩ := Input.text_eq_ok.1 hpassword
    have htext : password = .text p := hp.resolve_right (checkBytes_eq_ok.1 hbytes p)
    refine ⟨p, _, htext, hne, ?_, rfl, rfl⟩
    exact Store.userByKey?_eq_some_iff.2
      (.inl ((Store.user?_eq_some_iff hs'.userIds).2 ⟨List.mem_append_right _
        (List.mem_singleton_self _), rfl⟩))

end Newcomers

/-- A service recognizes a user by a password: a login with the id of the user and the
password is answered with a token that can be read, and whoever accepts it finds the
user in it. -/
def Service.Recognizes (service : Service) (d : Desk) (m : Moment) (r : Registry.Profile)
    (q : String) : Prop :=
  ∃ l d', service.perform m (.login (.text r.id) (.text q)) d = .ok (.login l) d' ∧
    (∀ decoder : Token.Decoder, decoder.key = none → ∃ c, Token.decode decoder l.token = .ok c) ∧
    ∀ decoder c, Token.decode decoder l.token = .ok c →
      c.userId = r.id ∧ c.username = r.name ∧ c.userEmail = r.email

/-- At a desk where nothing goes wrong, a user is recognized by the passwords with the
digest that is kept. -/
theorem Service.recognizes_iff {service : Service} {d : Desk} {m : Moment} {u : User}
    {p q : String} (hd : d.Ready) (hworks : service.issuer.Works m.now) (hid : u.id ≠ "")
    (huser : d.store.userByKey? u.id = some u) (hdigest : u.password = Registry.hashPassword p) :
    service.Recognizes d m (Registry.profile u) q ↔
      q ≠ "" ∧ Registry.hashPassword q = Registry.hashPassword p := by
  rw [← Registry.login_ready_iff hd hworks hid huser hdigest]
  constructor
  · rintro ⟨l, d', hperform, -⟩
    obtain ⟨l', hlogin, -⟩ := Session.answer_eq_ok hperform
    exact ⟨l', d', hlogin⟩
  · rintro ⟨l, d', hlogin⟩
    obtain ⟨k, u', d₁, hk, huser', -, -, hissue⟩ := Registry.login_eq_ok hlogin
    obtain rfl : u.id = k := Option.some.inj (Except.ok.inj hk)
    obtain rfl : u = u' := Option.some.inj (huser.symm.trans huser')
    obtain ⟨expiresAt, t, hexpiry, hend⟩ := hworks.expires
    refine ⟨l, d', bind_ready hlogin, fun decoder hkey =>
      Registry.decode_issueFor hissue hworks.clock hexpiry hend hkey, fun decoder c hdecode => ?_⟩
    obtain ⟨hcid, hname, hemail, -⟩ := Registry.claims_of_issueFor hissue hworks.clock hdecode
    exact ⟨hcid, hname, hemail⟩

/-- **A newcomer is recognized by the trimmed password**, and by the password of the
registration if and only if trimming keeps its digest.  The user registers after any
run from empty tables; the login is made at any desk with the tables that the
registration left, if nothing goes wrong there and the service can sign. -/
theorem recognizes_newcomer_iff (service : Service) (desk : Desk) (steps : List Step) {m : Moment}
    {name email password : Value} {r : Registry.Profile} {left : Desk}
    (hregister : service.perform m (.register name email password)
      (service.run { desk with store := {} } steps) = .ok (.profile r) left)
    (hid : r.id ≠ "") :
    ∃ p, password = .text p ∧
      ∀ (d : Desk) (m : Moment), d.Ready → d.store = left.store → service.issuer.Works m.now →
        service.Recognizes d m r (Text.strip p) ∧
          (service.Recognizes d m r p ↔
            Registry.hashPassword p = Registry.hashPassword (Text.strip p)) := by
  have hsound := (service.chronicle { desk with store := {} } steps).sound .empty
  obtain ⟨p, u, rfl, hne, huser, rfl, hdigest⟩ :=
    (Service.deed_of_perform hregister).newcomer hsound
  refine ⟨p, rfl, fun d m hd hstore hworks => ?_⟩
  rw [← hstore] at huser
  have hiff : ∀ q, service.Recognizes d m (Registry.profile u) q ↔ q ≠ "" ∧
      Registry.hashPassword q = Registry.hashPassword (Text.strip p) := fun q =>
    Service.recognizes_iff hd hworks hid huser hdigest
  have hp : p ≠ "" := by
    rintro rfl
    exact hne rfl
  refine ⟨(hiff _).2 ⟨hne, rfl⟩, ?_⟩
  rw [hiff]
  exact ⟨fun h => h.2, fun h => ⟨hp, h⟩⟩

/-! ### White space around a password -/

namespace Porch

/-- A service that signs its tokens. -/
def service : Service := ⟨⟨"HS256", .ok (.text "secret"), 3600000000, "guild", "guild", {}⟩, ""⟩

/-- Empty tables, and ids to come. -/
def desk : Desk := { supply := { prepared := ["u1", "s1"] } }

/-- The moment of every call. -/
def noon : Moment := ⟨⟨1000000⟩, none⟩

/-- Somebody registers with a password. -/
def registration (password : String) : Call :=
  .register (.text "ada") (.text "a@b.c") (.text password)

/-- The user, with the digest of `pw`. -/
def ada : User :=
  { id := "u1", name := "ada", email := "a@b.c",
    password := "30c952fab122c3f9759f02a6d95c3758b246b4fee239957b2d4fee46e26170c4",
    createdAt := ⟨1000000⟩, updatedAt := ⟨1000000⟩ }

/-- The desk after the registration. -/
def left : Desk :=
  { store := { users := [ada], stats := [{ id := "s1", userId := "u1" }] }, supply := {} }

theorem works : service.issuer.Works noon.now :=
  { clock := by decide
    signs :=
      ⟨.text "secret", rfl, fun _ => ⟨_, (Token.sign_eq_ok rfl).2 ⟨⟨by decide, by decide⟩, rfl⟩⟩⟩
    expires := ⟨⟨3601000000⟩, ⟨3601000000⟩, rfl, by decide⟩ }

theorem digest_pw : Registry.hashPassword "pw" = ada.password := Registry.hashPassword_pw

theorem digest_blank_pw : Registry.hashPassword " pw " =
    "aacc3f7e89f849ca115e293d0684bcf73e6ca117ee42ad5246f30caa59210ab1" := by decide +kernel

/-- A password that is `pw` when it is trimmed is kept as its digest. -/
theorem register_trimmed {password : String}
    (h : Input.text (.text password) "password" none = .ok "pw") :
    service.perform noon (registration password) desk =
      .ok (.profile (Registry.profile ada)) left := by
  have hregister : Registry.register noon (.text "ada") (.text "a@b.c") (.text password) desk =
      .ok _ _ :=
    Registry.register_ready ⟨rfl, rfl, rfl⟩ rfl rfl rfl h rfl rfl rfl rfl
  rw [Registry.newcomer_pw] at hregister
  exact bind_ready hregister

theorem register_pw : service.perform noon (registration "pw") desk =
    .ok (.profile (Registry.profile ada)) left := register_trimmed rfl

theorem register_blank_pw : service.perform noon (registration " pw ") desk =
    .ok (.profile (Registry.profile ada)) left := register_trimmed rfl

end Porch

open Porch in
/-- Somebody who registers with a password without white space can log in with it. -/
theorem recognizes_newcomer_porch :
    service.perform noon (registration "pw") (service.run { desk with store := {} } []) =
        .ok (.profile (Registry.profile ada)) left ∧
      ada.id ≠ "" ∧ service.Recognizes left noon (Registry.profile ada) "pw" := by
  have hid : ada.id ≠ "" := by decide
  obtain ⟨p, hp, hrecognizes⟩ := recognizes_newcomer_iff service desk [] register_pw hid
  obtain rfl : "pw" = p := Value.text.inj hp
  exact ⟨register_pw, hid, (hrecognizes left noon ⟨rfl, rfl, rfl⟩ rfl works).1⟩

open Porch in
/-- Somebody who registers with a blank before and after the password cannot log in
with it. -/
theorem newcomer_not_recognized :
    service.perform noon (registration " pw ") (service.run { desk with store := {} } []) =
        .ok (.profile (Registry.profile ada)) left ∧
      left.Ready ∧ service.issuer.Works noon.now ∧
      ∀ l d, service.perform noon (.login (.text (Registry.profile ada).id) (.text " pw ")) left ≠
        .ok (.login l) d := by
  refine ⟨register_blank_pw, ⟨rfl, rfl, rfl⟩, works, fun l d h => ?_⟩
  obtain ⟨l', hlogin, -⟩ := Session.answer_eq_ok h
  obtain ⟨-, hsame⟩ := (Registry.login_ready_iff (d := left) ⟨rfl, rfl, rfl⟩ works (by decide)
    (by rfl) digest_pw.symm).1 ⟨l', d, hlogin⟩
  rw [digest_blank_pw, digest_pw] at hsame
  exact absurd hsame (by decide)

end Guildhall
