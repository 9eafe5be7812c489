/-
Guildhall/Proofs/Privilege.lean

Nobody comes to privileges through the service.  Users register without rights,
and no call changes what a user is by (`User.identity`) as long as the user is
there.  A login token names the user who logged in and the audience of the
issuer; so whoever reads it finds neither an administrator nor a service in it,
and every gate keeps its holder from the privileged operations.

A token is dated in whole seconds, and it can be read only if the calendar has
the second in which it expires (`Registry.Login.IsDated`).  That is so whenever
tokens are good for a whole number of seconds.  A fraction of a second before the
end of the calendar the seconds of the expiry are rounded up beyond it, and then
nobody can read the token.

Main statement: `never_privileged`.
-/
import Guildhall.Proofs.Gate
import Guildhall.Proofs.Identity
import Guildhall.Proofs.Ledger
import Guildhall.Proofs.Registration

namespace Guildhall

/-! ### Users who stay -/

section Users

variable {s s' : Store} {es : List Event} {u : User}

/-- A deed that is not the removal of a user leaves the user there, as they are. -/
theorem Deed.keeps_user_of_event {m : Moment} {call : Call} {answer : Answer}
    (hdeed : Deed m s call answer s') (hs : s.Sound) (hu : u ∈ s.users)
    (hstays : Event.removes ⟨m, call, s, some answer, s'⟩ u.id = false) :
    ∃ v ∈ s'.users, v.identity = u.identity := by
  refine hdeed.keeps_user hs hu ?_
  rintro id rfl hid
  simp [Event.removes, hid, Except.toOption] at hstays

/-- **Events none of which removes a user leave the user there, as they are.** -/
theorem Chronicle.keeps_user (past : Chronicle s es s') (hs : s.Sound) (hu : u ∈ s.users)
    (hstays : ∀ e ∈ es, e.removes u.id = false) : ∃ v ∈ s'.users, v.identity = u.identity := by
  induction past with
  | start => exact ⟨u, hu, rfl⟩
  | deed past hdeed ih =>
    obtain ⟨v, hv, hidentity⟩ := ih fun e he => hstays e (List.mem_append_left _ he)
    have hid : v.id = u.id := congrArg Identity.id hidentity
    -- The last event does not remove the user either, under the same id.
    have hlast := hstays _ (List.mem_append_right _ (List.mem_singleton_self _))
    rw [← hid] at hlast
    obtain ⟨w, hw, hsame⟩ := hdeed.keeps_user_of_event (past.sound hs) hv hlast
    exact ⟨w, hw, hsame.trans hidentity⟩
  | stop _ ih => exact ih fun e he => hstays e (List.mem_append_left _ he)

end Users

/-! ### Tokens without privileges -/

/-- A token gives no privileges: whatever decoder reads it finds neither an administrator
nor a service in it. -/
def Token.IsPlain (token : String) : Prop :=
  ∀ decoder c, Token.decode decoder token = .ok c → c.isPrivileged = false

/-- A login whose token expires in a second of the calendar. -/
def Registry.Login.IsDated (l : Registry.Login) : Prop :=
  ∃ t, Instant.ofSeconds? l.expiresAt.seconds = some t

/-- The operations of administrators and services are open to nobody else. -/
theorem Policy.privileged_of_mem {operation : String} (h : operation ∈ privilegedOperations) :
    operationPolicies.lookup operation = some .privileged ∧ operation ∉ publicOperations := by
  have hall : ∀ operation ∈ privilegedOperations,
      operationPolicies.lookup operation = some .privileged ∧ operation ∉ publicOperations := by
    decide
  exact hall operation h

/-- **Every gate denies the privileged operations to the holder of a token without
privileges**, at every time and for every subject, and their work is not even
started.  The token is one at which no library breaks down. -/
theorem Gateway.Gate.run_of_isPlain {σ α : Type} {gate : Gate} {requestId token : String}
    {now : Instant} {e : Entrant} {handler : Journal.Context → EStateM Stop σ α}
    {c : Journal.Context} {s : σ} (hplain : Token.IsPlain token)
    (hwhole : ∀ decoder fault, Token.decode decoder token = .error fault →
      decoder.breaksAt fault = false)
    (hoperation : e.operation ∈ privilegedOperations)
    (hpolicy : operationPolicies.lookup e.operation = some e.policy)
    (hcredential : Bearer.credential e.authorization = .ok token) :
    (∃ denial, (gate.run requestId now e handler c s).result =
      .error (.failure (.unauthenticated denial)) s) ∧
      (gate.run requestId now e handler c s).seen = none := by
  obtain ⟨htable, hpublic⟩ := Policy.privileged_of_mem hoperation
  have heveryone : e.policy ≠ .everyone := by
    rw [← Option.some.inj (htable.symm.trans hpolicy)]
    decide
  have hscreen : (gate.screen now e (c.enter requestId (scopeOf e))).1 ≠ .ok () := by
    intro hok
    obtain ⟨token', claims, htoken, hdecode, henforce, -⟩ :=
      (screen_eq_ok heveryone).1 (Prod.ext hok rfl)
    obtain rfl : token = token' := Except.ok.inj (hcredential.symm.trans htoken)
    obtain ⟨-, hprivileged, -⟩ :=
      (Policy.authorize_eq_none heveryone hpublic).1 (Policy.enforce_eq_ok.1 henforce)
    have hclaims := Policy.isPrivileged_iff.2 (hprivileged hoperation)
    exact Bool.false_ne_true ((hplain gate.decoder claims hdecode).symm.trans hclaims)
  rcases screen_denies heveryone hscreen with ⟨denial, hdenied⟩ | ⟨-, hbreaks⟩
  · exact ⟨⟨denial, run_of_denied hdenied⟩, seen_of_denied hdenied⟩
  · obtain ⟨token', fault, htoken, hfault, hbreaks⟩ := hbreaks
    obtain rfl : token = token' := Except.ok.inj (hcredential.symm.trans htoken)
    exact absurd ((hwhole gate.decoder fault hfault).symm.trans hbreaks) Bool.false_ne_true

namespace Registry

variable {issuer : Token.Issuer} {now : Instant} {u : User} {l : Login} {d d' : Desk}

/-- The token of a login of a user without rights gives no privileges, unless the issuer
means its tokens for services. -/
theorem isPlain_of_issueFor (h : issueFor issuer now u d = .ok l d')
    (hclock : now.inCalendar = true) (hadmin : u.isAdmin = false)
    (haudience : issuer.audience ≠ Claims.serviceAudience) : Token.IsPlain l.token := by
  intro decoder c hdecode
  obtain ⟨-, -, -, hrights⟩ := claims_of_issueFor h hclock hdecode
  apply eq_false_of_ne_true
  intro hclaims
  rcases Policy.isPrivileged_iff.1 hclaims with hprivileged | hservice
  · exact Bool.false_ne_true (hadmin.symm.trans (hrights.symm.trans hprivileged))
  · exact haudience (audience_of_issueFor h hclock hdecode _ hservice).symm

/-- **When the token of a login can be read** by whoever trusts the key: if it is
dated. -/
theorem exists_decode_iff_isDated (h : issueFor issuer now u d = .ok l d')
    (hclock : now.inCalendar = true) {key : Token.Key} (hkey : issuer.key = .ok key)
    (hname : issuer.algorithm ∈ Token.secretNames) {decoder : Token.Decoder}
    (htrusts : decoder.Trusts issuer.algorithm key) :
    (∃ c, Token.decode decoder l.token = .ok c) ↔ l.IsDated := by
  obtain ⟨key', tokenId, hkey', hexpiry, htoken⟩ := encode_of_issueFor h
  obtain rfl : key = key' := Except.ok.inj (hkey.symm.trans hkey')
  have hdecode := Token.decode_eq_of_trusts hname htoken
    (Token.Issuer.clear_claims hclock hexpiry tokenId _) htrusts
  have hread : ∀ c, Token.decode decoder l.token = .ok c ↔ Claims.ofFields
      (issuer.claims now l.expiresAt tokenId ⟨u.id, u.name, u.email, u.isAdmin⟩).payload =
        .ok c := fun c => by
    rw [hdecode, Except.mapError_eq_ok]
  exact (exists_congr hread).trans (Token.Issuer.exists_ofFields_claims_iff hclock)

/-- Tokens that are good for a whole number of seconds are dated. -/
theorem isDated_of_dvd (h : issueFor issuer now u d = .ok l d')
    (hwhole : 1000000 ∣ issuer.lifetime) : l.IsDated := by
  obtain ⟨key, tokenId, -, hexpiry, -⟩ := encode_of_issueFor h
  exact ⟨_, (Token.Issuer.isWhole_of_expiry? hexpiry hwhole).ofSeconds?_seconds⟩

end Registry

/-! ### Runs -/

/-- **Nobody comes to privileges through the service.**  After every run from empty
tables no user is an administrator, and every user is there after every further run
that does not remove the user, with the same id, name, email address, digest of the
password and rights.  If the issuer signs with a shared secret and does not mean its
tokens for services, then the token of every login is read by whoever trusts the key,
provided that it is dated, as it is if tokens are good for a whole number of seconds;
and whoever reads it, every gate denies every privileged operation to its holder. -/
theorem never_privileged (service : Service) (d : Desk) (before later : List Step) (key : Token.Key)
    (haudience : service.issuer.audience ≠ Claims.serviceAudience)
    (hname : service.issuer.algorithm ∈ Token.secretNames)
    (hkey : service.issuer.key = .ok key) :
    let reached := service.run { d with store := {} } before
    (∀ u ∈ reached.store.users, u.isAdmin = false ∧
      ((∀ e ∈ service.history reached later, e.removes u.id = false) →
        ∃ v, (service.run reached later).store.user? u.id = some v ∧ v.identity = u.identity)) ∧
    ∀ m provided password l left, m.now.inCalendar = true →
      service.perform m (.login provided password) reached = .ok (.login l) left →
      (∀ decoder : Token.Decoder, decoder.Trusts service.issuer.algorithm key →
        ((∃ c, Token.decode decoder l.token = .ok c) ↔ l.IsDated)) ∧
      (1000000 ∣ service.issuer.lifetime → l.IsDated) ∧
      (∀ decoder c, Token.decode decoder l.token = .ok c → c.isPrivileged = false) ∧
      ∀ {σ α : Type} (gate : Gateway.Gate) (requestId : String) (now : Instant)
        (e : Gateway.Entrant) (handler : Journal.Context → EStateM Stop σ α)
        (c : Journal.Context) (s : σ), e.operation ∈ privilegedOperations →
        operationPolicies.lookup e.operation = some e.policy →
        Bearer.credential e.authorization = .ok l.token →
        (∃ denial, (gate.run requestId now e handler c s).result =
          .error (.failure (.unauthenticated denial)) s) ∧
          (gate.run requestId now e handler c s).seen = none := by
  intro reached
  have past := service.chronicle { d with store := {} } before
  have hsound : reached.store.Sound := past.sound .empty
  have hadmin : ∀ u ∈ reached.store.users, u.isAdmin = false :=
    past.forall_identity (P := fun i => i.isAdmin = false) fun _ => rfl
  constructor
  · intro u hu
    refine ⟨hadmin u hu, fun hstays => ?_⟩
    have further := service.chronicle reached later
    obtain ⟨v, hv, hidentity⟩ := further.keeps_user hsound hu hstays
    have hid : v.id = u.id := congrArg Identity.id hidentity
    exact ⟨v, (Store.user?_eq_some_iff (further.sound hsound).userIds).2 ⟨hv, hid⟩, hidentity⟩
  · intro m provided password l left hclock hperform
    -- The token is issued for a user who is there, and who is no administrator.
    obtain ⟨l', hlogin, hl⟩ := Session.answer_eq_ok hperform
    obtain rfl := Answer.login.inj hl
    obtain ⟨k, u, d₁, -, huser, -, -, hissue⟩ := Registry.login_eq_ok hlogin
    have hplain : Token.IsPlain l.token :=
      Registry.isPlain_of_issueFor hissue hclock (hadmin u (Store.mem_of_userByKey? huser))
        haudience
    exact ⟨fun decoder => Registry.exists_decode_iff_isDated hissue hclock hkey hname,
      Registry.isDated_of_dvd hissue, hplain,
      fun gate requestId now e handler c s => Gateway.Gate.run_of_isPlain hplain fun _ _ hfault =>
        Registry.breaksAt_of_issueFor hissue hclock hfault⟩

namespace Commoner

/-- A service whose tokens are good for some microseconds. -/
def service (lifetime : Int) : Service :=
  ⟨⟨"HS256", .ok (.text "secret"), lifetime, "guild", "guild", {}⟩, ""⟩

/-- Ids to come. -/
def desk : Desk := { supply := { prepared := ["u1", "s1"] } }

/-- An hour before the end of the calendar. -/
def late : Moment := ⟨⟨253402297199000000⟩, none⟩

/-- Somebody registers. -/
def steps : List Step := [⟨late, .register (.text "ada") (.text "a@b.c") (.text "pw")⟩]

/-- The user, with the digest of `pw`. -/
def ada : User :=
  { id := "u1", name := "ada", email := "a@b.c",
    password := "30c952fab122c3f9759f02a6d95c3758b246b4fee239957b2d4fee46e26170c4",
    createdAt := late.now, updatedAt := late.now }

/-- The desk after the registration. -/
def left : Desk :=
  { store := { users := [ada], stats := [{ id := "s1", userId := "u1" }] }, supply := {} }

/-- The call of the user who logs in. -/
def login : Call := .login (.text "u1") (.text "pw")

theorem run_steps (lifetime : Int) : (service lifetime).run desk steps = left :=
  (service lifetime).run_ada late.now "u1" "s1" [] []

theorem rightLogin_ada : Registry.RightLogin left.store ada "u1" "pw" :=
  ⟨by decide, by decide, rfl, Registry.hashPassword_pw.symm⟩

/-- The user logs in where the calendar has the instant at which the token expires. -/
theorem login_until {lifetime : Int} {expiresAt : Instant}
    (hexpiry : (service lifetime).issuer.expiry? late.now = some expiresAt) :
    ∃ l d, (service lifetime).perform late login left = .ok (.login l) d ∧
      l.expiresAt = expiresAt := by
  have hsigns : (service lifetime).issuer.Signs := Porch.works.signs
  obtain ⟨l, d, hlogin, hissue⟩ :=
    Registry.login_of_right (m := late) ⟨rfl, rfl, rfl⟩ hsigns hexpiry rightLogin_ada
  obtain ⟨_, _, -, hexpires, -⟩ := Registry.encode_of_issueFor hissue
  exact ⟨l, d, Session.bind_ready hlogin, Option.some.inj (hexpires.symm.trans hexpiry)⟩

/-- Tokens for an hour less one second. -/
theorem login_whole :
    ∃ l d, (service 3599000000).perform late login left = .ok (.login l) d := by
  have hexpiry : (service 3599000000).issuer.expiry? late.now = some ⟨253402300798000000⟩ := rfl
  obtain ⟨l, d, hlogin, -⟩ := login_until hexpiry
  exact ⟨l, d, hlogin⟩

/-- Tokens that are good until the last microsecond of the calendar. -/
theorem login_fraction : ∃ l d, (service 3600999999).perform late login left = .ok (.login l) d ∧
    l.expiresAt = ⟨253402300799999999⟩ :=
  login_until rfl

theorem credential_of_login {lifetime : Int} {l : Registry.Login} {d : Desk}
    (h : (service lifetime).perform late login left = .ok (.login l) d) :
    Bearer.credential (some (Bearer.header l.token)) = .ok l.token := by
  obtain ⟨l', hlogin, hl⟩ := Session.answer_eq_ok h
  obtain rfl := Answer.login.inj hl
  obtain ⟨k, u, d₁, -, -, -, -, hissue⟩ := Registry.login_eq_ok hlogin
  exact Registry.credential_issueFor hissue

end Commoner

open Commoner in
/-- A user logs in with a token that can be read, and may not grant money with it. -/
theorem never_privileged_commoner :
    (service 3599000000).issuer.audience ≠ Claims.serviceAudience ∧
      (service 3599000000).issuer.algorithm ∈ Token.secretNames ∧
      ∃ l d, (service 3599000000).perform late login
          ((service 3599000000).run { desk with store := {} } steps) = .ok (.login l) d ∧
        (∃ c, Token.decode {} l.token = .ok c) ∧
        ∀ (gate : Gateway.Gate) (now : Instant) (subject : Option String), ∃ denial,
          (gate.run "" now ⟨"Users/GrantCurrencies", .privileged,
            some (Bearer.header l.token), subject⟩
            (fun _ => (pure () : Session Unit)) {} {}).result =
            .error (.failure (.unauthenticated denial)) {} := by
  have haudience : (service 3599000000).issuer.audience ≠ Claims.serviceAudience := by decide
  have hname : (service 3599000000).issuer.algorithm ∈ Token.secretNames := by decide
  obtain ⟨l, d, hlogin⟩ := login_whole
  have hreached : (service 3599000000).run { desk with store := {} } steps = left := run_steps _
  obtain ⟨hreads, hdated, -, hdenies⟩ := (never_privileged (service 3599000000) desk steps []
    (.text "secret") haudience hname rfl).2 late (.text "u1") (.text "pw") l d (by decide)
    (hreached ▸ hlogin)
  have hread : ∃ c, Token.decode {} l.token = .ok c :=
    (hreads {} (Token.Decoder.trusts_of_key_eq_none rfl)).2 (hdated ⟨3599, rfl⟩)
  have hoperation : "Users/GrantCurrencies" ∈ privilegedOperations := by decide
  have hpolicy : operationPolicies.lookup "Users/GrantCurrencies" = some .privileged := by decide
  rw [hreached]
  refine ⟨haudience, hname, l, d, hlogin, hread, fun gate now subject => ?_⟩
  obtain ⟨hdenied, -⟩ := hdenies gate "" now ⟨"Users/GrantCurrencies", .privileged,
    some (Bearer.header l.token), subject⟩ (fun _ => (pure () : Session Unit)) {} {} hoperation
    hpolicy (credential_of_login hlogin)
  exact hdenied

open Commoner in
/-- Nobody can read a token that expires in the last microsecond of the calendar. -/
theorem login_token_unreadable :
    (service 3600999999).issuer.audience ≠ Claims.serviceAudience ∧
      (service 3600999999).issuer.algorithm ∈ Token.secretNames ∧
      ∃ l d, (service 3600999999).perform late login
          ((service 3600999999).run { desk with store := {} } steps) = .ok (.login l) d ∧
        ∀ decoder c, Token.decode decoder l.token ≠ .ok c := by
  have hreached : (service 3600999999).run { desk with store := {} } steps = left := run_steps _
  obtain ⟨l, d, hlogin, hexpires⟩ := login_fraction
  rw [hreached]
  refine ⟨by decide, by decide, l, d, hlogin, ?_⟩
  intro decoder c hdecode
  obtain ⟨l', hissued, hl⟩ := Session.answer_eq_ok hlogin
  obtain rfl := Answer.login.inj hl
  obtain ⟨k, u, d₁, -, -, -, -, hissue⟩ := Registry.login_eq_ok hissued
  have hclock : late.now.inCalendar = true := by decide
  obtain ⟨tokenId, hfields⟩ := Registry.ofFields_of_issueFor hissue hclock hdecode
  obtain ⟨t, ht⟩ := (Token.Issuer.exists_ofFields_claims_iff hclock).1 ⟨c, hfields⟩
  -- The seconds are rounded up to the first one that the calendar does not have.
  have hend : Instant.ofSeconds? (Instant.seconds ⟨253402300799999999⟩) = none := by decide
  rw [hexpires, hend] at ht
  cases ht

end Guildhall
