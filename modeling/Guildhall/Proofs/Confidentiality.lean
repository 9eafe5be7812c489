/-
Guildhall/Proofs/Confidentiality.lean

Who sees whose profile.  The gate lets a user read a profile under the names
that stand in the user's token: id, name and email address.  The service looks
such a name up among the ids of all users first, then among all names, and
last among all addresses.  So a user sees nobody else's profile as long as
each of the three names means the user, and one of them may come to mean
somebody else: whoever registers under the id of another user reads that
user's profile.

Main statement: `profile_confidential_iff`.
-/
import Guildhall.Gateway
import Guildhall.Proofs.Gate
import Guildhall.Proofs.Identity
import Guildhall.Proofs.Registration

namespace Guildhall

open Gateway

/-! ### Names and what they mean -/

/-- The names under which a user may ask for a profile. -/
def User.aliases (u : User) : List String := [u.id, u.name, u.email]

/-- A subject means a user: it is a valid key, and the user is found under it. -/
def Store.Means (s : Store) (subject : String) (u : User) : Prop :=
  ∃ k, Input.identifier (.text subject) "id" = .ok k ∧ s.userByKey? k = some u

/-- A subject that means somebody is not empty. -/
theorem Store.Means.ne_empty {s : Store} {subject : String} {u : User} (h : s.Means subject u) :
    subject ≠ "" := by
  rintro rfl
  obtain ⟨k, hk, -⟩ := h
  have hreject : Input.identifier (.text "") "id" = Input.reject (.text "") "id" .empty := rfl
  rw [hreject] at hk
  cases hk

/-! ### Reading profiles -/

namespace Gateway

variable {g : Gateway} {token subject : String} {s : Store} {u : User} {c : Claims}

/-- A gateway shows a profile to a caller with a token: at some moment, a request that
carries the token and asks for the profile of some subject is answered with it. -/
def Shows (g : Gateway) (token : String) (s : Store) (p : Registry.Profile) : Prop :=
  ∃ (m : Moment) (r : Request) (subject : String) (d d' : Desk), d.store = s ∧
    Bearer.credential r.authorization = .ok token ∧
    (g.gate.run r.id m.now (entrant .readUser [subject] r)
      (fun _ => g.service.perform m (Endpoint.readUser.call [subject] [])) {} d).result =
      .ok (.profile p) d'

/-- A gateway takes a token: its decoder finds claims in it, and there is time to read
a profile. -/
def Takes (g : Gateway) (token : String) : Prop :=
  (∃ c, Token.decode g.gate.decoder token = .ok c) ∧
    g.gate.deadline.obstacle? Endpoint.readUser.operation = none

/-- Reading a profile is allowed to administrators, and under each of the caller's
names. -/
theorem authorize_readUser {now : Instant} :
    Policy.enforce Endpoint.readUser.policy (some c) (some subject)
        (some Endpoint.readUser.operation) now = .ok () ↔
      now ≤ c.expiresAt ∧ (c.isAdmin = true ∨ c.userId ≠ "" ∧ subject = c.userId ∨
        subject ≠ "" ∧ (subject = c.username ∨ subject = c.userEmail)) := by
  have hpolicy : Endpoint.readUser.policy = .selfAliasOrAdmin := by decide
  have hopen : Endpoint.readUser.operation ∉ privilegedOperations := by decide
  rw [Policy.enforce_eq_ok, hpolicy, Policy.authorize_eq_none (by decide) (by decide)]
  simp [Policy.Holds, hopen]

theorem policy_readUser_ne (subject : String) (r : Request) :
    (entrant .readUser [subject] r).policy ≠ .everyone := by
  show Endpoint.readUser.policy ≠ .everyone
  decide

/-- **What is shown to a caller who is no administrator is the profile of somebody whom
one of the caller's names means.** -/
theorem means_of_shows {p : Registry.Profile} (h : g.Shows token s p) :
    g.Takes token ∧ ∃ c subject u, Token.decode g.gate.decoder token = .ok c ∧
      s.Means subject u ∧ p = Registry.profile u ∧
      (c.isAdmin = true ∨ subject ∈ [c.userId, c.username, c.userEmail]) := by
  obtain ⟨m, r, subject, d, d', rfl, hcredential, hrun⟩ := h
  obtain ⟨scope, hscreen, hdeadline, hperform⟩ := Gate.run_eq_ok.1 hrun
  obtain ⟨token', c, htoken, hdecode, henforce, -⟩ :=
    (Gate.screen_eq_ok (policy_readUser_ne _ _)).1 hscreen
  obtain rfl : token = token' := Except.ok.inj (hcredential.symm.trans htoken)
  -- The gate looks at the names in the token, the service at those in the store.
  obtain ⟨p', hread, hp⟩ := Session.answer_eq_ok hperform
  obtain rfl := Answer.profile.inj hp
  obtain ⟨k, u, hkey, huser, hprofile, -⟩ := Registry.read_eq_ok hread
  obtain ⟨-, hallowed⟩ := authorize_readUser.1 henforce
  refine ⟨⟨⟨c, hdecode⟩, hdeadline⟩, c, subject, u, hdecode, ⟨k, hkey, huser⟩, hprofile, ?_⟩
  rcases hallowed with hadmin | ⟨-, hid⟩ | ⟨-, hname | hemail⟩
  · exact .inl hadmin
  · exact .inr (by simp [hid])
  · exact .inr (by simp [hname])
  · exact .inr (by simp [hemail])

/-- **Whomever one of the caller's names means, the caller is shown that profile.** -/
theorem shows_of_means (hcredential : Bearer.credential (some (Bearer.header token)) = .ok token)
    (hdecode : Token.decode g.gate.decoder token = .ok c) (htakes : g.Takes token)
    (hsubject : subject ∈ [c.userId, c.username, c.userEmail]) (hmeans : s.Means subject u) :
    g.Shows token s (Registry.profile u) := by
  have hne := hmeans.ne_empty
  obtain ⟨k, hkey, huser⟩ := hmeans
  -- The request is made at a desk where nothing goes wrong, in the last instant in
  -- which the token is good.
  let d : Desk := { store := s }
  have hread : Registry.read (.text subject) d = .ok (Registry.profile u) d :=
    Registry.read_ready ⟨rfl, rfl, rfl⟩ (Input.names_text hkey) huser
  have hallowed : c.userId ≠ "" ∧ subject = c.userId ∨
      subject ≠ "" ∧ (subject = c.username ∨ subject = c.userEmail) := by
    simp only [List.mem_cons, List.not_mem_nil, or_false] at hsubject
    rcases hsubject with rfl | h
    · exact .inl ⟨hne, rfl⟩
    · exact .inr ⟨hne, h⟩
  let r : Request :=
    { method := "GET", target := "", authorization := some (Bearer.header token) }
  refine ⟨⟨c.expiresAt, none⟩, r, subject, d, d, rfl, hcredential, ?_⟩
  refine Gate.run_eq_ok.2 ⟨_, (Gate.screen_eq_ok (policy_readUser_ne subject r)).2
    ⟨token, c, hcredential, hdecode, authorize_readUser.2 ⟨Int.le_refl _, .inr hallowed⟩, rfl⟩,
    htakes.2, ?_⟩
  exact Session.bind_ready hread

end Gateway

/-! ### Logins -/

/-- A login that is answered with a token for a user: the key is that of the user. -/
def Service.LogsIn (service : Service) (d : Desk) (m : Moment) (u : User) (l : Registry.Login)
    (d' : Desk) : Prop :=
  ∃ key password k, Registry.lookupText key = .ok (some k) ∧ d.store.userByKey? k = some u ∧
    service.perform m (.login key password) d = .ok (.login l) d'

/-- A login ends with a token that is issued for the user. -/
theorem Service.LogsIn.issueFor {service : Service} {d d' : Desk} {m : Moment} {u : User}
    {l : Registry.Login} (h : service.LogsIn d m u l d') :
    u ∈ d.store.users ∧ ∃ d₁, Registry.issueFor service.issuer m.now u d₁ = .ok l d' := by
  obtain ⟨key, password, k, hkey, huser, hperform⟩ := h
  obtain ⟨l', hlogin, hl⟩ := Session.answer_eq_ok hperform
  obtain rfl := Answer.login.inj hl
  obtain ⟨k', u', d₁, hkey', huser', -, -, hissue⟩ := Registry.login_eq_ok hlogin
  obtain rfl : k = k' := Option.some.inj (Except.ok.inj (hkey.symm.trans hkey'))
  obtain rfl : u = u' := Option.some.inj (huser.symm.trans huser')
  exact ⟨Store.mem_of_userByKey? huser, d₁, hissue⟩

/-- **A user who has logged in sees no profile but the user's own, if and only if none
of the user's names means somebody else**; unless the gateway does not take the token
at all.  The user logs in after any run from empty tables, and what can be seen is
looked at after any further run. -/
theorem profile_confidential_iff (g : Gateway) (d : Desk) (before later : List Step) {m : Moment}
    {b : User} {l : Registry.Login} {desk : Desk}
    (hlogin : g.service.LogsIn (g.service.run { d with store := {} } before) m b l desk)
    (hclock : m.now.inCalendar = true) :
    (∀ p, g.Shows l.token (g.service.run desk later).store p → p.id = b.id) ↔
      (g.Takes l.token → ∀ subject ∈ b.aliases, ∀ u,
        (g.service.run desk later).store.Means subject u → u.id = b.id) := by
  obtain ⟨hmem, d₁, hissue⟩ := hlogin.issueFor
  have past := g.service.chronicle { d with store := {} } before
  have hadmin : b.isAdmin = false :=
    past.forall_identity (P := fun i => i.isAdmin = false) (fun _ => rfl) b hmem
  -- Whatever happens later, the token says what it said at the login.
  have hclaims : ∀ {c}, Token.decode g.gate.decoder l.token = .ok c →
      [c.userId, c.username, c.userEmail] = b.aliases ∧ c.isAdmin = false := by
    intro c hdecode
    obtain ⟨hid, hname, hemail, hrights⟩ := Registry.claims_of_issueFor hissue hclock hdecode
    rw [hid, hname, hemail]
    exact ⟨rfl, hrights.trans hadmin⟩
  constructor
  · intro hown htakes subject hsubject u hmeans
    obtain ⟨c, hdecode⟩ := htakes.1
    rw [← (hclaims hdecode).1] at hsubject
    exact hown _
      (shows_of_means (Registry.credential_issueFor hissue) hdecode htakes hsubject hmeans)
  · intro hnames p hshows
    obtain ⟨htakes, c, subject, u, hdecode, hmeans, rfl, hallowed⟩ := means_of_shows hshows
    obtain ⟨haliases, hrights⟩ := hclaims hdecode
    rcases hallowed with hallowed | hsubject
    · exact absurd (hrights.symm.trans hallowed) Bool.false_ne_true
    · exact hnames htakes subject (haliases ▸ hsubject) u hmeans

/-! ### A namesake -/

namespace Namesake

/-- A service that signs its tokens. -/
def service : Service := ⟨⟨"HS256", .ok (.text "secret"), 3600000000, "guild", "guild", {}⟩, ""⟩

/-- A gateway that has all the time. -/
def gateway : Gateway := ⟨⟨{}, .never⟩, service, ""⟩

/-- Empty tables, and ids to come. -/
def desk : Desk := { supply := { prepared := ["u1", "s1", "u2", "s2"] } }

/-- The moment of every call. -/
def noon : Moment := ⟨⟨1000000⟩, none⟩

/-- Somebody registers, and then somebody else under the id of the first. -/
def steps : List Step :=
  [⟨noon, .register (.text "ada") (.text "a@b.c") (.text "pw")⟩,
    ⟨noon, .register (.text "u1") (.text "x@y.z") (.text "pw")⟩]

/-- A user, with the digest of the password. -/
def user (id name email : String) : User :=
  { id, name, email,
    password := "30c952fab122c3f9759f02a6d95c3758b246b4fee239957b2d4fee46e26170c4",
    createdAt := ⟨1000000⟩, updatedAt := ⟨1000000⟩ }

def ada : User := user "u1" "ada" "a@b.c"

def eve : User := user "u2" "u1" "x@y.z"

/-- The tables in the end. -/
def registered : Store :=
  { users := [ada, eve]
    stats := [{ id := "s1", userId := "u1" }, { id := "s2", userId := "u2" }] }

/-- The tables with the first user only. -/
def alone : Store := { users := [ada], stats := [{ id := "s1", userId := "u1" }] }

/-- Two users register, the second one under a name that is free. -/
theorem run_two {name : String}
    (hname : Input.text (.text name) "name" (some Input.nameLimit) = .ok name)
    (hne : "ada" ≠ name) :
    service.run desk
        [⟨noon, .register (.text "ada") (.text "a@b.c") (.text "pw")⟩,
          ⟨noon, .register (.text name) (.text "x@y.z") (.text "pw")⟩] =
      { store :=
          { users := [ada, user "u2" name "x@y.z"]
            stats := [{ id := "s1", userId := "u1" }, { id := "s2", userId := "u2" }] } } := by
  have hfree : Registry.ensureFree alone (.text name) (.text "x@y.z") name "x@y.z" = .ok () := by
    have hunused : alone.users.any (·.name == name) = false := by simp [alone, ada, user, hne]
    show (if alone.users.any (·.name == name) = true then _ else _ : Except Stop Unit) = _
    rw [hunused]
    rfl
  have huser : alone.insertUser (Registry.newcomer noon.now "u2" name "x@y.z" "pw") =
      .ok { alone with users := [ada, Registry.newcomer noon.now "u2" name "x@y.z" "pw"] } := by
    refine Store.insertUser_eq_ok.2 ⟨?_, fun v hv => ?_, ⟨Int.le_refl 0, Int.le_refl 0⟩, rfl⟩
    · simp [Registry.newcomer, leastStored, greatestStored]
    · -- The first user is the only one before.
      obtain rfl := List.mem_singleton.1 hv
      have hid : "u1" ≠ "u2" := by decide
      have hemail : "a@b.c" ≠ "x@y.z" := by decide
      exact ⟨hid, hne, hemail⟩
  refine (service.run_ada noon.now "u1" "s1" ["u2", "s2"] _).trans ?_
  refine (service.run_register [] ⟨rfl, rfl, rfl⟩ rfl hname rfl rfl hfree rfl huser rfl).trans ?_
  rw [Registry.newcomer_pw]
  rfl

theorem run_steps : service.run desk steps = { store := registered } := run_two rfl (by decide)

/-- Each of the two can log in with a key that means them. -/
theorem logsIn {key : String} {u : User} (hright : Registry.RightLogin registered u key "pw") :
    ∃ l d, service.LogsIn (service.run desk steps) noon u l d ∧ d.store = registered := by
  have hexpiry : service.issuer.expiry? noon.now = some ⟨3601000000⟩ := rfl
  obtain ⟨l, d, hlogin, -⟩ := Registry.login_of_right (m := noon) (d := { store := registered })
    ⟨rfl, rfl, rfl⟩ Porch.works.signs hexpiry hright
  have hperform : service.perform noon (.login (.text key) (.text "pw")) { store := registered } =
      .ok (.login l) d := Session.bind_ready hlogin
  rw [run_steps]
  exact ⟨l, d, ⟨_, _, key, rfl, hright.means, hperform⟩,
    (Service.deed_of_perform hperform).eq_of_looks rfl⟩

theorem logsIn_ada : ∃ l d, service.LogsIn (service.run desk steps) noon ada l d ∧
    d.store = registered := by
  have hright : Registry.RightLogin registered ada "ada" "pw" :=
    ⟨by decide, by decide, rfl, Registry.hashPassword_pw.symm⟩
  exact logsIn hright

theorem logsIn_eve : ∃ l d, service.LogsIn (service.run desk steps) noon eve l d ∧
    d.store = registered := by
  have hright : Registry.RightLogin registered eve "x@y.z" "pw" :=
    ⟨by decide, by decide, rfl, Registry.hashPassword_pw.symm⟩
  exact logsIn hright

/-- The name of the second user means the first one. -/
theorem means_ada : registered.Means eve.name ada := ⟨"u1", rfl, rfl⟩

/-- Each name of the first user means that user. -/
theorem aliases_ada {subject : String} (hsubject : subject ∈ ada.aliases) {u : User}
    (hmeans : registered.Means subject u) : u.id = ada.id := by
  have hkey : ∀ subject ∈ ada.aliases,
      Input.identifier (.text subject) "id" = .ok subject ∧
        registered.userByKey? subject = some ada := by
    intro subject hsubject
    simp only [User.aliases, List.mem_cons, List.not_mem_nil, or_false] at hsubject
    rcases hsubject with rfl | rfl | rfl <;> exact ⟨rfl, rfl⟩
  obtain ⟨k, hk, huser⟩ := hmeans
  obtain ⟨hk', hada⟩ := hkey subject hsubject
  obtain rfl : subject = k := Except.ok.inj (hk'.symm.trans hk)
  rw [← Option.some.inj (hada.symm.trans huser)]

end Namesake

open Namesake in
/-- The first user sees no profile but the user's own. -/
theorem profile_confidential_iff_ada :
    ∃ l d, service.LogsIn (service.run { desk with store := {} } steps) noon ada l d ∧
      noon.now.inCalendar = true ∧
      ∀ p, gateway.Shows l.token (service.run d []).store p → p.id = ada.id := by
  obtain ⟨l, d, hlogin, hstore⟩ := logsIn_ada
  have hclock : noon.now.inCalendar = true := by decide
  have hlater : (gateway.service.run d []).store = registered := hstore
  refine ⟨l, d, hlogin, hclock,
    (profile_confidential_iff gateway desk steps [] hlogin hclock).2 ?_⟩
  intro _ subject hsubject u hmeans
  rw [hlater] at hmeans
  exact aliases_ada hsubject hmeans

open Namesake in
/-- The second user, who is no administrator, is shown the profile of the first. -/
theorem profile_shown_to_namesake :
    ∃ l d, service.LogsIn (service.run { desk with store := {} } steps) noon eve l d ∧
      eve.isAdmin = false ∧ ∃ p, gateway.Shows l.token d.store p ∧ p.id ≠ eve.id := by
  obtain ⟨l, d, hlogin, hstore⟩ := logsIn_eve
  have hclock : noon.now.inCalendar = true := by decide
  obtain ⟨-, d₁, hissue⟩ := hlogin.issueFor
  have hexpiry : service.issuer.expiry? noon.now = some ⟨3601000000⟩ := rfl
  have hend : Instant.ofSeconds? (Instant.seconds ⟨3601000000⟩) = some ⟨3601000000⟩ :=
    Instant.ofSeconds?_wholeSecond (t := ⟨3601000000⟩) (by decide)
  have hkey : gateway.gate.decoder.key = none := rfl
  obtain ⟨c, hdecode⟩ := Registry.decode_issueFor hissue hclock hexpiry hend hkey
  obtain ⟨-, hname, -⟩ := Registry.claims_of_issueFor hissue hclock hdecode
  refine ⟨l, d, hlogin, rfl, Registry.profile ada, ?_, by decide⟩
  rw [hstore]
  refine shows_of_means (Registry.credential_issueFor hissue) hdecode ⟨⟨c, hdecode⟩, rfl⟩ ?_
    means_ada
  rw [← hname]
  exact List.mem_cons_of_mem _ (List.mem_cons_self ..)

end Guildhall
