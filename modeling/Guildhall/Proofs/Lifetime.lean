/-
Guildhall/Proofs/Lifetime.lean

What a login token is good for.  A token opens the operations that users run for
themselves, for the user who logged in and for nobody else, from any time on until
the last instant of its lifetime, which is counted from the start of the second of
the login:

    admitted at t for s  ↔  t ≤ start + lifetime  and  s is the user

After that instant the gate says that the token is expired, and before it, for
somebody else, that it is not theirs.  The lifetime has whole seconds, so nothing
of it is lost in the token.

Main statements: `Policy.authorize_selfOrAdmin` and `token_authorizes_owner`.
-/
import Guildhall.Proofs.Privilege
import Guildhall.Proofs.Registration

namespace Guildhall

/-! ### Operations that users run for themselves -/

/-- The operations that are open to the user whom they are about, and to administrators,
but to no other service. -/
def ownOperations : List String :=
  ["StoreItems/BuyByUser", "StoreItems/EquipByUser", "Users/Delete"]

namespace Policy

variable {c : Claims} {subject : Option String} {operation : String} {now : Instant}

theorem selfOrAdmin_of_mem (h : operation ∈ ownOperations) :
    operationPolicies.lookup operation = some .selfOrAdmin ∧
      operation ∉ publicOperations ∧ operation ∉ privilegedOperations := by
  have hall : ∀ operation ∈ ownOperations,
      operationPolicies.lookup operation = some .selfOrAdmin ∧
        operation ∉ publicOperations ∧ operation ∉ privilegedOperations := by
    decide
  exact hall operation h

/-- **What is said of claims without rights in an operation that users run for
themselves**: first whether they are expired, then whether the subject is theirs. -/
theorem authorize_selfOrAdmin (h : operation ∈ ownOperations) (hadmin : c.isAdmin = false)
    (hid : c.userId ≠ "") :
    authorize .selfOrAdmin (some c) subject (some operation) now =
      .ok (if c.expiresAt < now then some .tokenExpired
        else if subject = some c.userId then none else some .notSelf) := by
  obtain ⟨-, hpublic, hprivileged⟩ := selfOrAdmin_of_mem h
  have hopen : (decide (selfOrAdmin = everyone) ||
      (some operation).any publicOperations.contains) = false := by
    rw [Option.any_some, Bool.or_eq_false_iff]
    exact ⟨rfl, eq_false_of_ne_true fun hmem => hpublic (List.contains_iff_mem.1 hmem)⟩
  have hclosed :
      ((some operation).any privilegedOperations.contains && !c.isPrivileged) = false := by
    rw [Option.any_some, Bool.and_eq_false_iff]
    exact .inl (eq_false_of_ne_true fun hmem => hprivileged (List.contains_iff_mem.1 hmem))
  have hself : (c.isAdmin || isSelf c subject) = decide (subject = some c.userId) := by
    rw [hadmin, Bool.false_or, Bool.eq_iff_iff, isSelf_iff, decide_eq_true_eq]
    exact ⟨fun h => h.2, fun h => ⟨hid, h⟩⟩
  unfold authorize
  rw [hopen, if_neg Bool.false_ne_true]
  dsimp only
  rw [hclosed, judge, allowIf, hself, Claims.isExpired]
  by_cases hexpired : c.expiresAt < now
  · simp [hexpired]
  · by_cases hsubject : subject = some c.userId
    · simp [hexpired, hsubject]
    · simp [hexpired, hsubject]

end Policy

/-! ### Login tokens -/

/-- When a token expires: at the end of its lifetime, counted from the start of the
second in which it is issued. -/
theorem Token.Issuer.expiry?_eq_some {issuer : Token.Issuer} {now expiresAt : Instant} :
    issuer.expiry? now = some expiresAt ↔
      expiresAt = ⟨now.wholeSecond.micros + issuer.lifetime⟩ ∧ expiresAt.inCalendar = true :=
  Instant.ofMicros?_eq_some

namespace Registry

variable {issuer : Token.Issuer} {now : Instant} {u : User} {l : Login} {d d' : Desk}

/-- **Whoever trusts the key of a login token finds in it the user and the end of the
lifetime**, if tokens are good for a whole number of seconds. -/
theorem decode_issueFor_of_trusts (h : issueFor issuer now u d = .ok l d')
    (hclock : now.inCalendar = true) {key : Token.Key} (hkey : issuer.key = .ok key)
    (hname : issuer.algorithm ∈ Token.secretNames) (hwhole : 1000000 ∣ issuer.lifetime)
    {decoder : Token.Decoder} (htrusts : decoder.Trusts issuer.algorithm key) :
    ∃ c, Token.decode decoder l.token = .ok c ∧ c.userId = u.id ∧ c.isAdmin = u.isAdmin ∧
      c.expiresAt = ⟨now.wholeSecond.micros + issuer.lifetime⟩ := by
  obtain ⟨c, hdecode⟩ :=
    (exists_decode_iff_isDated h hclock hkey hname htrusts).2 (isDated_of_dvd h hwhole)
  obtain ⟨hid, -, -, hadmin⟩ := claims_of_issueFor h hclock hdecode
  obtain ⟨_, _, -, hexpiry, -⟩ := encode_of_issueFor h
  have hback := (Token.Issuer.isWhole_of_expiry? hexpiry hwhole).ofSeconds?_seconds
  have hexpires : c.expiresAt = l.expiresAt :=
    Option.some.inj ((expiresAt_of_issueFor h hclock hdecode).symm.trans hback)
  exact ⟨c, hdecode, hid, hadmin, hexpires.trans (Token.Issuer.expiry?_eq_some.1 hexpiry).1⟩

end Registry

/-- **A login token opens what users run for themselves to its owner, for its lifetime.**
The login is made after any run from empty tables, with credentials of a user whose id
is not empty; it is answered if nothing goes wrong at the desk, the key is a shared
secret and the lifetime ends within the calendar.  Whatever gate trusts the key, at any
time before or after the login and for any subject, the operations are admitted if and
only if the lifetime is not over, counted from the start of the second of the login,
and the subject is the user.  When it is over the token is called expired; before, any
other subject is called somebody else's. -/
theorem token_authorizes_owner (service : Service) (desk : Desk) (steps : List Step) (m : Moment)
    (u : User) (provided password : Value) (key : Token.Key)
    (hcredentials : Registry.Credentials (service.run { desk with store := {} } steps).store u
      provided password)
    (hid : u.id ≠ "") (hname : service.issuer.algorithm ∈ Token.secretNames)
    (hkey : service.issuer.key = .ok key) (hwhole : 1000000 ∣ service.issuer.lifetime)
    (hclock : m.now.inCalendar = true) :
    let reached := service.run { desk with store := {} } steps
    let last : Instant := ⟨m.now.wholeSecond.micros + service.issuer.lifetime⟩
    (reached.Ready → key.IsSecret → last.inCalendar = true →
      ∃ l left, service.perform m (.login provided password) reached = .ok (.login l) left) ∧
    ∀ l left, service.perform m (.login provided password) reached = .ok (.login l) left →
      ∀ gate : Gateway.Gate, gate.decoder.Trusts service.issuer.algorithm key →
      ∀ operation ∈ ownOperations, ∀ policy, operationPolicies.lookup operation = some policy →
      ∀ (now : Instant) (subject : Option String) (context : Journal.Context),
        let said := (gate.screen now
          ⟨operation, policy, some (Bearer.header l.token), subject⟩ context).1
        (said = .ok () ↔ now ≤ last ∧ subject = some u.id) ∧
          (last < now → said = .error (.failure (.unauthenticated .tokenExpired))) ∧
          (now ≤ last → subject ≠ some u.id →
            said = .error (.failure (.unauthenticated .notSelf))) := by
  intro reached last
  constructor
  · intro hready hsecret hend
    have hexpiry : service.issuer.expiry? m.now = some last :=
      Token.Issuer.expiry?_eq_some.2 ⟨rfl, hend⟩
    have hworks := Registry.works_of_isSecret hname hkey hsecret hclock hexpiry
      (Token.Issuer.isWhole_of_expiry? hexpiry hwhole)
    obtain ⟨l, left, hlogin⟩ := Registry.login_ready hready hworks hcredentials
    exact ⟨l, left, Session.bind_ready hlogin⟩
  · intro l left hperform gate htrusts operation hown policy hpolicy now subject context said
    obtain ⟨l', hlogin, hl⟩ := Session.answer_eq_ok hperform
    obtain rfl := Answer.login.inj hl
    obtain ⟨v, d₁, hgiven, hissue⟩ := Registry.credentials_of_login hlogin
    obtain rfl : u = v := hcredentials.unique hgiven
    -- Nobody who registers is an administrator.
    have hadmin : u.isAdmin = false := by
      obtain ⟨k, -, huser⟩ := hcredentials.means
      exact (service.chronicle { desk with store := {} } steps).forall_identity
        (P := fun i => i.isAdmin = false) (fun _ => rfl) u (Store.mem_of_userByKey? huser)
    obtain ⟨c, hdecode, hcid, hrights, hexpires⟩ :=
      Registry.decode_issueFor_of_trusts hissue hclock hkey hname hwhole htrusts
    have hcne : c.userId ≠ "" := fun h => hid (hcid.symm.trans h)
    obtain rfl : Policy.selfOrAdmin = policy :=
      Option.some.inj ((Policy.selfOrAdmin_of_mem hown).1.symm.trans hpolicy)
    have heveryone : Policy.selfOrAdmin ≠ .everyone := by decide
    have hscreen : said = Policy.enforce .selfOrAdmin (some c) subject (some operation) now :=
      Gateway.Gate.screen_of_decode heveryone (Registry.credential_issueFor hissue) hdecode
    have hsaid := hscreen.trans (Policy.enforce_of_authorize
      (Policy.authorize_selfOrAdmin hown (hrights.trans hadmin) hcne))
    rw [hexpires, hcid] at hsaid
    by_cases hover : last < now
    · rw [if_pos hover] at hsaid
      have hlate : ¬now ≤ last := Int.not_le.2 hover
      refine ⟨?_, fun _ => hsaid, fun hnow => absurd hnow hlate⟩
      rw [hsaid]
      exact ⟨nofun, fun h => absurd h.1 hlate⟩
    · have hnow : now ≤ last := Int.not_lt.1 hover
      rw [if_neg hover] at hsaid
      by_cases hsubject : subject = some u.id
      · rw [if_pos hsubject] at hsaid
        exact ⟨⟨fun _ => ⟨hnow, hsubject⟩, fun _ => hsaid⟩, fun h => absurd h hover,
          fun _ h => absurd hsubject h⟩
      · rw [if_neg hsubject] at hsaid
        refine ⟨?_, fun h => absurd h hover, fun _ _ => hsaid⟩
        rw [hsaid]
        exact ⟨nofun, fun h => absurd h.2 hsubject⟩

open Commoner in
/-- A user who logs in an hour before the end of the calendar may buy for the user's own
id until the last second but one, and is told then that the token is expired. -/
theorem token_authorizes_owner_commoner :
    ∃ l left, (service 3599000000).perform late login
        ((service 3599000000).run { desk with store := {} } steps) = .ok (.login l) left ∧
      ∀ subject : Option String,
        ((Gateway.Gate.screen ⟨{}, .never⟩ ⟨253402300798000000⟩ ⟨"StoreItems/BuyByUser",
          .selfOrAdmin, some (Bearer.header l.token), subject⟩ {}).1 = .ok () ↔
            subject = some "u1") ∧
        (Gateway.Gate.screen ⟨{}, .never⟩ ⟨253402300798000001⟩ ⟨"StoreItems/BuyByUser",
          .selfOrAdmin, some (Bearer.header l.token), subject⟩ {}).1 =
            .error (.failure (.unauthenticated .tokenExpired)) := by
  have hreached : (service 3599000000).run { desk with store := {} } steps = left := run_steps _
  have hcredentials : Registry.Credentials
      ((service 3599000000).run { desk with store := {} } steps).store ada (.text "u1")
      (.text "pw") := by
    rw [hreached]
    exact rightLogin_ada.credentials
  have hready : ((service 3599000000).run { desk with store := {} } steps).Ready := by
    rw [hreached]
    exact ⟨rfl, rfl, rfl⟩
  obtain ⟨hanswered, hopens⟩ := token_authorizes_owner (service 3599000000) desk steps late ada
    (.text "u1") (.text "pw") (.text "secret") hcredentials (by decide) (by decide) rfl ⟨3599, rfl⟩
    (by decide)
  obtain ⟨l, left, hlogin⟩ := hanswered hready ⟨by decide, by decide⟩ (by decide)
  refine ⟨l, left, hlogin, fun subject => ?_⟩
  have hgate := fun now => hopens l left hlogin ⟨{}, .never⟩
    (Token.Decoder.trusts_of_key_eq_none rfl) "StoreItems/BuyByUser" (by decide) .selfOrAdmin
    (by decide) now subject {}
  constructor
  · rw [(hgate ⟨253402300798000000⟩).1]
    exact ⟨fun h => h.2, fun h => ⟨by decide, h⟩⟩
  · exact (hgate ⟨253402300798000001⟩).2.1 (by decide)

end Guildhall
