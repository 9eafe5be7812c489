/-
Guildhall/Proofs/Decision.lean

Who may run what, completely.  An operation is open to everybody, or there are four things
that a caller has to meet, which are looked at in a fixed order: there are claims, they are
not expired, they give privileges if the operation asks for them, and they are what the
policy asks for.  The decision is the verdict on that list,

    authorize = .ok denial?   where   Verdict (requirements ..) denial?

so a call is allowed if and only if all of them are met, and it is denied for the reason of
the first one that is not.  Every list has a verdict, and only one; so a decision is always
made, and the question that no policy can answer, what public access asks of claims, is
never put.  Each of the four asks for rights and none for their absence, so more rights turn
no permission into a denial.

Main statements: `Policy.verdict_authorize` and `Policy.guard_decides`.
-/
import Guildhall.Policy

namespace Guildhall.Policy

variable {policy : Policy} {c : Claims} {claims : Option Claims} {subject operation : Option String}
  {now : Instant}

/-! ### Rights -/

/-- What a policy asks of claims and a subject. -/
def Holds (c : Claims) (subject : Option String) : Policy → Prop
  | everyone | authenticated => True
  | privileged => c.isAdmin = true ∨ Claims.serviceAudience ∈ c.audience
  | selfOrAdmin => c.isAdmin = true ∨ c.userId ≠ "" ∧ subject = some c.userId
  | selfAliasOrAdmin =>
    c.isAdmin = true ∨ c.userId ≠ "" ∧ subject = some c.userId ∨
      ∃ s, subject = some s ∧ s ≠ "" ∧ (s = c.username ∨ s = c.userEmail)
  | selfOrAdminOrService =>
    c.isAdmin = true ∨ c.userId ≠ "" ∧ subject = some c.userId ∨
      Claims.serviceAudience ∈ c.audience

theorem isPrivileged_iff :
    c.isPrivileged = true ↔ c.isAdmin = true ∨ Claims.serviceAudience ∈ c.audience := by
  rw [Claims.isPrivileged, Claims.hasAudience, Bool.or_eq_true, List.contains_iff_mem]

/-- The caller is the subject, if the claims name anybody. -/
theorem isSelf_iff : isSelf c subject = true ↔ c.userId ≠ "" ∧ subject = some c.userId := by
  simp [isSelf]

/-- The subject is the caller's name or email address, if it is anything. -/
theorem isAlias_iff :
    isAlias c subject = true ↔
      ∃ s, subject = some s ∧ s ≠ "" ∧ (s = c.username ∨ s = c.userEmail) := by
  cases subject with
  | none => simp [isAlias]
  | some s => simp [isAlias]

/-- What a policy asks for is kept by claims with more rights. -/
theorem Holds.mono {admin : Bool} {audience : List String} (h : policy.Holds c subject)
    (hadmin : c.isAdmin = true → admin = true) (haudience : c.audience ⊆ audience) :
    policy.Holds { c with isAdmin := admin, audience } subject := by
  cases policy with
  | everyone => trivial
  | authenticated => trivial
  | privileged => exact h.imp hadmin (haudience ·)
  | selfOrAdmin => exact h.imp_left hadmin
  | selfAliasOrAdmin => exact h.imp_left hadmin
  | selfOrAdminOrService => exact h.imp hadmin (Or.imp_right (haudience ·))

/-! ### Verdicts -/

/-- Something that a caller has to meet, and the reason for which a caller is denied who does
not. -/
structure Requirement where
  denial : Denial
  Met : Prop

/-- The verdict on requirements that are looked at one after the other: no denial if all of
them are met, and else the one of the first that is not. -/
inductive Verdict : List Requirement → Option Denial → Prop
  | allowed : Verdict [] none
  | denied {r : Requirement} {rs : List Requirement} (hr : ¬r.Met) :
      Verdict (r :: rs) (some r.denial)
  | passed {r : Requirement} {rs : List Requirement} {denial? : Option Denial} (hr : r.Met)
      (rest : Verdict rs denial?) : Verdict (r :: rs) denial?

namespace Verdict

variable {rs : List Requirement} {denial? denial?' : Option Denial}

/-- There is one verdict only. -/
theorem unique (h : Verdict rs denial?) (h' : Verdict rs denial?') : denial? = denial?' := by
  induction h with
  | allowed =>
    cases h'
    rfl
  | denied hr =>
    cases h' with
    | denied => rfl
    | passed hr' => exact absurd hr' hr
  | passed hr _ ih =>
    cases h' with
    | denied hr' => exact absurd hr hr'
    | passed _ rest => exact ih rest

theorem none_iff : Verdict rs none ↔ ∀ r ∈ rs, r.Met := by
  induction rs with
  | nil => exact ⟨fun _ => List.forall_mem_nil _, fun _ => .allowed⟩
  | cons r rs ih =>
    rw [List.forall_mem_cons, ← ih]
    constructor
    · rintro (_ | _ | ⟨hr, rest⟩)
      exact ⟨hr, rest⟩
    · rintro ⟨hr, rest⟩
      exact .passed hr rest

/-- A denial is that of the first requirement that is not met. -/
theorem some_iff {denial : Denial} :
    Verdict rs (some denial) ↔ ∃ before r after, rs = before ++ r :: after ∧
      (∀ q ∈ before, q.Met) ∧ ¬r.Met ∧ r.denial = denial := by
  constructor
  · intro h
    generalize hsome : some denial = denial? at h
    induction h with
    | allowed => cases hsome
    | @denied r rs hr =>
      exact ⟨[], r, rs, rfl, List.forall_mem_nil _, hr, (Option.some.inj hsome).symm⟩
    | @passed r rs denial? hr _ ih =>
      obtain ⟨before, q, after, rfl, hbefore, hq⟩ := ih hsome
      exact ⟨r :: before, q, after, rfl, List.forall_mem_cons.2 ⟨hr, hbefore⟩, hq⟩
  · rintro ⟨before, r, after, rfl, hbefore, hr, rfl⟩
    induction before with
    | nil => exact .denied hr
    | cons q before ih =>
      obtain ⟨hq, hbefore⟩ := List.forall_mem_cons.1 hbefore
      exact .passed hq (ih hbefore)

end Verdict

/-! ### What is required -/

/-- An operation that is open to everybody: by its policy, or by its name. -/
def IsOpen (policy : Policy) (operation : Option String) : Prop :=
  policy = everyone ∨ ∃ name ∈ operation, name ∈ publicOperations

/-- The reason for which a policy itself denies. -/
def denial : Policy → Denial
  | privileged => .privilegeRequired
  | _ => .notSelf

/-- What a caller has to meet if the operation is not open. -/
def requirements (policy : Policy) (claims : Option Claims) (subject operation : Option String)
    (now : Instant) : List Requirement :=
  [⟨.invalidCredential, ∃ c, claims = some c⟩,
    ⟨.tokenExpired, ∀ c ∈ claims, now ≤ c.expiresAt⟩,
    ⟨.privilegeRequired, ∀ c ∈ claims, ∀ name ∈ operation, name ∈ privilegedOperations →
      c.isAdmin = true ∨ Claims.serviceAudience ∈ c.audience⟩,
    ⟨policy.denial, ∀ c ∈ claims, policy.Holds c subject⟩]

theorem isOpen_iff :
    (decide (policy = everyone) || operation.any publicOperations.contains) = true ↔
      IsOpen policy operation := by
  cases operation <;> simp [IsOpen]

/-- Privileges are missing where the operation asks for them. -/
theorem lacksPrivilege_iff :
    (operation.any privilegedOperations.contains && !c.isPrivileged) = true ↔
      ¬∀ name ∈ operation, name ∈ privilegedOperations →
        c.isAdmin = true ∨ Claims.serviceAudience ∈ c.audience := by
  rw [Bool.and_eq_true, Bool.not_eq_true', ← Bool.not_eq_true, isPrivileged_iff]
  cases operation <;> simp

/-! ### Decisions -/

theorem authorize_of_isOpen (h : IsOpen policy operation) :
    authorize policy claims subject operation now = .ok none := if_pos (isOpen_iff.2 h)

/-- A condition is the verdict on the only requirement. -/
theorem verdict_allowIf {condition : Bool} {denial : Denial} {met : Prop}
    (h : condition = true ↔ met) :
    ∃ denial?, allowIf condition denial = .ok denial? ∧ Verdict [⟨denial, met⟩] denial? := by
  cases condition with
  | false => exact ⟨some denial, rfl, .denied fun hmet => Bool.false_ne_true (h.2 hmet)⟩
  | true => exact ⟨none, rfl, .passed (h.1 rfl) .allowed⟩

/-- A policy that is not the public one judges by what it asks for. -/
theorem verdict_judge (heveryone : policy ≠ everyone) (c : Claims) (subject : Option String) :
    ∃ denial?, judge policy c subject = .ok denial? ∧
      Verdict [⟨policy.denial, policy.Holds c subject⟩] denial? := by
  cases policy with
  | everyone => exact absurd rfl heveryone
  | authenticated => exact ⟨none, rfl, .passed trivial .allowed⟩
  | privileged => exact verdict_allowIf isPrivileged_iff
  | selfOrAdmin =>
    apply verdict_allowIf
    rw [Bool.or_eq_true, isSelf_iff, Holds]
  | selfAliasOrAdmin =>
    apply verdict_allowIf
    rw [Bool.or_eq_true, Bool.or_eq_true, isSelf_iff, isAlias_iff, or_assoc, Holds]
  | selfOrAdminOrService =>
    apply verdict_allowIf
    rw [Bool.or_eq_true, Bool.or_eq_true, isSelf_iff, or_assoc, Holds, Claims.hasAudience,
      List.contains_iff_mem]

/-- **The decision on an operation that is not open is the verdict on what is required.** -/
theorem verdict_authorize (hclosed : ¬IsOpen policy operation) (claims : Option Claims)
    (subject : Option String) (now : Instant) :
    ∃ denial?, authorize policy claims subject operation now = .ok denial? ∧
      Verdict (requirements policy claims subject operation now) denial? := by
  have heveryone : policy ≠ everyone := fun h => hclosed (.inl h)
  unfold authorize requirements
  rw [if_neg (mt isOpen_iff.1 hclosed)]
  cases claims with
  | none => exact ⟨_, rfl, .denied (by simp)⟩
  | some c =>
    simp only [Option.mem_some_iff, forall_eq']
    -- The checks are made in the order of the list; the first that fails is the verdict.
    by_cases hexpired : c.isExpired now = true
    · have hlate : ¬now ≤ c.expiresAt := Int.not_le.2 (of_decide_eq_true hexpired)
      rw [if_pos hexpired]
      exact ⟨_, rfl, .passed ⟨c, rfl⟩ (.denied hlate)⟩
    · have hnow : now ≤ c.expiresAt := Int.not_lt.1 fun h => hexpired (decide_eq_true h)
      rw [if_neg hexpired]
      by_cases hlacks : (operation.any privilegedOperations.contains && !c.isPrivileged) = true
      · rw [if_pos hlacks]
        exact ⟨_, rfl, .passed ⟨c, rfl⟩ (.passed hnow (.denied (lacksPrivilege_iff.1 hlacks)))⟩
      · rw [if_neg hlacks]
        obtain ⟨denial?, hjudge, hverdict⟩ := verdict_judge heveryone c subject
        have hprivileged := Classical.not_not.1 (mt lacksPrivilege_iff.2 hlacks)
        exact ⟨denial?, hjudge, .passed ⟨c, rfl⟩ (.passed hnow (.passed hprivileged hverdict))⟩

/-- A verdict is the decision. -/
theorem authorize_eq_ok_iff (hclosed : ¬IsOpen policy operation) {denial? : Option Denial} :
    authorize policy claims subject operation now = .ok denial? ↔
      Verdict (requirements policy claims subject operation now) denial? := by
  obtain ⟨decision, hdecision, hverdict⟩ := verdict_authorize hclosed claims subject now
  rw [hdecision, Except.ok.injEq]
  constructor
  · rintro rfl
    exact hverdict
  · exact hverdict.unique

/-- **Who is allowed**: everybody if the operation is open, and whoever meets what is
required. -/
theorem authorize_eq_none_iff :
    authorize policy claims subject operation now = .ok none ↔
      IsOpen policy operation ∨ ∃ c, claims = some c ∧ now ≤ c.expiresAt ∧
        (∀ name ∈ operation, name ∈ privilegedOperations →
          c.isAdmin = true ∨ Claims.serviceAudience ∈ c.audience) ∧
        policy.Holds c subject := by
  by_cases hopen : IsOpen policy operation
  · exact iff_of_true (authorize_of_isOpen hopen) (.inl hopen)
  · rw [authorize_eq_ok_iff hopen, Verdict.none_iff, or_iff_right hopen]
    cases claims with
    | none => simp [requirements]
    | some c => simp [requirements]

/-- The decision of somebody with claims, on an operation that is not open by its name. -/
theorem authorize_eq_none {operation : String} (heveryone : policy ≠ .everyone)
    (hpublic : operation ∉ publicOperations) :
    authorize policy (some c) subject (some operation) now = .ok none ↔
      now ≤ c.expiresAt ∧
        (operation ∈ privilegedOperations →
          c.isAdmin = true ∨ Claims.serviceAudience ∈ c.audience) ∧
        policy.Holds c subject := by
  have hclosed : ¬IsOpen policy (some operation) := by
    rintro (h | ⟨name, hname, h⟩)
    · exact heveryone h
    · obtain rfl := Option.mem_some.1 hname
      exact hpublic h
  rw [authorize_eq_none_iff, or_iff_right hclosed]
  simp

/-- A decision is always made. -/
theorem exists_authorize_eq_ok (policy : Policy) (claims : Option Claims)
    (subject operation : Option String) (now : Instant) :
    ∃ denial?, authorize policy claims subject operation now = .ok denial? := by
  by_cases hopen : IsOpen policy operation
  · exact ⟨none, authorize_of_isOpen hopen⟩
  · obtain ⟨denial?, hdecision, -⟩ := verdict_authorize hopen claims subject now
    exact ⟨denial?, hdecision⟩

/-- More rights turn no permission into a denial. -/
theorem authorize_mono {admin : Bool} {audience : List String}
    (h : authorize policy (some c) subject operation now = .ok none)
    (hadmin : c.isAdmin = true → admin = true) (haudience : c.audience ⊆ audience) :
    authorize policy (some { c with isAdmin := admin, audience }) subject operation now =
      .ok none := by
  rw [authorize_eq_none_iff] at h ⊢
  rcases h with hopen | ⟨_, hc, hnow, hprivileged, hholds⟩
  · exact .inl hopen
  · obtain rfl := Option.some.inj hc
    refine .inr ⟨_, rfl, hnow, fun name hname h => ?_, hholds.mono hadmin haudience⟩
    exact (hprivileged name hname h).imp hadmin (haudience ·)

/-! ### Enforcing a decision -/

/-- What is decided is what the caller learns. -/
theorem enforce_of_authorize {denial? : Option Denial}
    (h : authorize policy claims subject operation now = .ok denial?) :
    enforce policy claims subject operation now =
      denial?.elim (.ok ()) fun denial => .error (.failure (.unauthenticated denial)) := by
  unfold enforce
  rw [h]
  cases denial? <;> rfl

/-- A policy that allows lets the call go on. -/
theorem enforce_eq_ok :
    enforce policy claims subject operation now = .ok () ↔
      authorize policy claims subject operation now = .ok none := by
  obtain ⟨denial?, hdecision⟩ := exists_authorize_eq_ok policy claims subject operation now
  rw [enforce_of_authorize hdecision, hdecision]
  cases denial? <;> simp

/-- A call that may not go on is stopped with the denial, and in no other way. -/
theorem enforce_eq_error {stop : Stop} :
    enforce policy claims subject operation now = .error stop ↔
      ∃ denial, authorize policy claims subject operation now = .ok (some denial) ∧
        stop = .failure (.unauthenticated denial) := by
  obtain ⟨denial?, hdecision⟩ := exists_authorize_eq_ok policy claims subject operation now
  rw [enforce_of_authorize hdecision, hdecision]
  cases denial? with
  | none => simp
  | some denial => simp [eq_comm]

/-- A policy that does not let a call go on denies it. -/
theorem enforce_denies (h : enforce policy claims subject operation now ≠ .ok ()) :
    ∃ denial, enforce policy claims subject operation now =
      .error (.failure (.unauthenticated denial)) := by
  cases henforce : enforce policy claims subject operation now with
  | ok _ => exact absurd henforce h
  | error stop =>
    obtain ⟨denial, -, rfl⟩ := enforce_eq_error.1 henforce
    exact ⟨denial, rfl⟩

/-! ### The whole decision -/

/-- **What is decided, for every policy, caller, subject, operation and time.**  There is a
decision.  A call is allowed if and only if its operation is open, or there are claims that
are not expired, that give privileges if the operation asks for them, and that are what the
policy asks for; and it is denied for a reason if and only if the operation is not open and
the reason is that of the first requirement that is not met.  A call is stopped exactly if
it is denied, with the denial.  Who is allowed stays allowed with more rights. -/
theorem guard_decides (policy : Policy) (claims : Option Claims)
    (subject operation : Option String) (now : Instant) :
    (∃ denial?, authorize policy claims subject operation now = .ok denial?) ∧
      (authorize policy claims subject operation now = .ok none ↔
        IsOpen policy operation ∨ ∃ c, claims = some c ∧ now ≤ c.expiresAt ∧
          (∀ name ∈ operation, name ∈ privilegedOperations →
            c.isAdmin = true ∨ Claims.serviceAudience ∈ c.audience) ∧
          policy.Holds c subject) ∧
      (∀ denial, authorize policy claims subject operation now = .ok (some denial) ↔
        ¬IsOpen policy operation ∧ ∃ before r after,
          requirements policy claims subject operation now = before ++ r :: after ∧
            (∀ q ∈ before, q.Met) ∧ ¬r.Met ∧ r.denial = denial) ∧
      (∀ stop, enforce policy claims subject operation now = .error stop ↔
        ∃ denial, authorize policy claims subject operation now = .ok (some denial) ∧
          stop = .failure (.unauthenticated denial)) ∧
      ∀ (c : Claims) (admin : Bool) (audience : List String),
        (c.isAdmin = true → admin = true) → c.audience ⊆ audience →
        authorize policy (some c) subject operation now = .ok none →
          authorize policy (some { c with isAdmin := admin, audience }) subject operation now =
            .ok none := by
  refine ⟨exists_authorize_eq_ok policy claims subject operation now, authorize_eq_none_iff,
    fun denial => ?_, fun stop => enforce_eq_error, fun c admin audience hadmin haudience h =>
      authorize_mono h hadmin haudience⟩
  by_cases hopen : IsOpen policy operation
  · rw [authorize_of_isOpen hopen]
    exact iff_of_false nofun fun h => h.1 hopen
  · rw [authorize_eq_ok_iff hopen, Verdict.some_iff]
    exact (and_iff_right hopen).symm

namespace Porter

/-- The claims of a user, good until an instant. -/
def ada : Claims := { expiresAt := ⟨1000⟩, userId := "u1", username := "ada", userEmail := "a@b.c" }

end Porter

open Porter in
/-- A user reads the own profile under the own name until the last instant, and still may
with the rights of a service; an instant later the token is expired, which is said before
that the privileges for a grant are missing. -/
theorem guard_decides_porter :
    authorize .selfAliasOrAdmin (some ada) (some "ada") (some "Users/Read") ⟨1000⟩ = .ok none ∧
      authorize .selfAliasOrAdmin (some { ada with audience := ["svc"] }) (some "ada")
        (some "Users/Read") ⟨1000⟩ = .ok none ∧
      authorize .privileged (some ada) (some "u1") (some "Users/GrantCurrencies") ⟨1001⟩ =
        .ok (some .tokenExpired) := by
  obtain ⟨-, hallowed, -, -, hmore⟩ :=
    guard_decides .selfAliasOrAdmin (some ada) (some "ada") (some "Users/Read") ⟨1000⟩
  obtain ⟨-, -, hdenied, -⟩ :=
    guard_decides .privileged (some ada) (some "u1") (some "Users/GrantCurrencies") ⟨1001⟩
  have hread := hallowed.2 (.inr ⟨ada, rfl, by decide, by simp [privilegedOperations],
    .inr (.inr ⟨"ada", rfl, by decide, .inl rfl⟩)⟩)
  refine ⟨hread, hmore ada false ["svc"] nofun (List.nil_subset _) hread, (hdenied _).2 ⟨?_, ?_⟩⟩
  · simp [IsOpen, publicOperations]
  · refine ⟨[⟨.invalidCredential, ∃ c, some ada = some c⟩], _, _, rfl, ?_, ?_, rfl⟩
    · simp
    · simp only [Option.mem_some_iff, forall_eq']
      decide

end Guildhall.Policy
