/-
Guildhall/Proofs/Keys.lean

Whom a key means.  A key is looked up among the ids of all users, then among their
names, then among their email addresses, and the first column with a match decides:

    userByKey? k = some u  ↔  u has k, and nobody has it in an earlier column

So the own id means the user, always.  The own name and address do unless somebody
else has that text in an earlier column, and nobody keeps a newcomer from taking the
address of another user as a name.  Reads, grants and logins that name a user by a key
work on the user whom it means, and on nobody else (`Service.Serves`).

Main statement: `means_own_keys`.
-/
import Guildhall.Proofs.Confidentiality
import Guildhall.Proofs.Domain

namespace Guildhall

/-! ### The first column that matches -/

/-- The column in which a user has a key first: the id is column 0, the name column 1
and the email address column 2; column 3 stands for no column at all. -/
def User.column (u : User) (key : String) : Nat :=
  if u.id = key then 0 else if u.name = key then 1 else if u.email = key then 2 else 3

namespace User

variable {u : User} {key : String}

theorem column_eq_zero_iff : u.column key = 0 ↔ u.id = key := by
  unfold column
  split_ifs <;> simp_all

theorem column_eq_one_iff : u.column key = 1 ↔ u.id ≠ key ∧ u.name = key := by
  unfold column
  split_ifs <;> simp_all

theorem column_eq_two_iff :
    u.column key = 2 ↔ u.id ≠ key ∧ u.name ≠ key ∧ u.email = key := by
  unfold column
  split_ifs <;> simp_all

/-- A user has a key if it stands in one of the three columns. -/
theorem column_lt_three_iff : u.column key < 3 ↔ key ∈ u.aliases := by
  unfold column aliases
  split_ifs <;> simp_all [eq_comm]

end User

namespace Store.Sound

variable {s : Store} {key : String} {u v : User}

/-- **A key means the user who has it in the earliest column.** -/
theorem userByKey?_iff (hs : s.Sound) :
    s.userByKey? key = some u ↔
      u ∈ s.users ∧ key ∈ u.aliases ∧ ∀ v ∈ s.users, u.column key ≤ v.column key := by
  have hid : s.users.find? (·.id == key) = some u ↔ u ∈ s.users ∧ u.id = key :=
    Rows.find?_eq_some_iff hs.userIds fun _ => beq_iff_eq
  have hname : s.users.find? (·.name == key) = some u ↔ u ∈ s.users ∧ u.name = key :=
    Rows.find?_eq_some_iff hs.userNames fun _ => beq_iff_eq
  have hemail : s.users.find? (·.email == key) = some u ↔ u ∈ s.users ∧ u.email = key :=
    Rows.find?_eq_some_iff hs.userEmails fun _ => beq_iff_eq
  rw [userByKey?_eq_some_iff, hid, hname, hemail, List.find?_eq_none, List.find?_eq_none,
    ← User.column_lt_three_iff]
  simp only [beq_iff_eq]
  constructor
  · -- The column that decides is the first one in which anybody has the key.
    rintro (⟨hu, hkey⟩ | ⟨hids, ⟨hu, hkey⟩ | ⟨hnames, hu, hkey⟩⟩)
    · have h0 := User.column_eq_zero_iff.2 hkey
      exact ⟨hu, by omega, fun v _ => by omega⟩
    · have h1 := User.column_eq_one_iff.2 ⟨hids u hu, hkey⟩
      refine ⟨hu, by omega, fun v hv => ?_⟩
      have hv0 : v.column key ≠ 0 := fun h => hids v hv (User.column_eq_zero_iff.1 h)
      omega
    · have h2 := User.column_eq_two_iff.2 ⟨hids u hu, hnames u hu, hkey⟩
      refine ⟨hu, by omega, fun v hv => ?_⟩
      have hv0 : v.column key ≠ 0 := fun h => hids v hv (User.column_eq_zero_iff.1 h)
      have hv1 : v.column key ≠ 1 := fun h => hnames v hv (User.column_eq_one_iff.1 h).2
      omega
  · rintro ⟨hu, hlt, hfirst⟩
    have hids : u.column key ≠ 0 → ∀ v ∈ s.users, ¬v.id = key := by
      intro hne v hv hvid
      have hv0 := User.column_eq_zero_iff.2 hvid
      have := hfirst v hv
      omega
    obtain h0 | h1 | h2 : u.column key = 0 ∨ u.column key = 1 ∨ u.column key = 2 := by omega
    · exact .inl ⟨hu, User.column_eq_zero_iff.1 h0⟩
    · exact .inr ⟨hids (by omega), .inl ⟨hu, (User.column_eq_one_iff.1 h1).2⟩⟩
    · have hno := hids (by omega)
      refine .inr ⟨hno, .inr ⟨fun v hv hvname => ?_, hu, (User.column_eq_two_iff.1 h2).2.2⟩⟩
      have hv1 := User.column_eq_one_iff.2 ⟨hno v hv, hvname⟩
      have := hfirst v hv
      omega

/-- The own id means the user. -/
theorem userByKey?_id (hs : s.Sound) (hu : u ∈ s.users) : s.userByKey? u.id = some u := by
  have h0 : u.column u.id = 0 := User.column_eq_zero_iff.2 rfl
  exact hs.userByKey?_iff.2 ⟨hu, List.mem_cons_self, fun v _ => h0 ▸ Nat.zero_le _⟩

end Store.Sound

/-- A key that some user has means somebody. -/
theorem Store.exists_userByKey? {s : Store} {key : String} {u : User} (hu : u ∈ s.users)
    (hkey : key ∈ u.aliases) : ∃ v, s.userByKey? key = some v := by
  rw [← Option.isSome_iff_exists]
  unfold userByKey?
  simp only [Option.orElse_eq_orElse, Option.orElse_eq_or, Option.isSome_or, Bool.or_eq_true,
    List.find?_isSome, beq_iff_eq]
  simp only [User.aliases, List.mem_cons, List.not_mem_nil, or_false] at hkey
  rcases hkey with hid | hname | hemail
  · exact .inl ⟨u, hu, hid.symm⟩
  · exact .inr (.inl ⟨u, hu, hname.symm⟩)
  · exact .inr (.inr ⟨u, hu, hemail.symm⟩)

/-! ### Calls that name a user by a key -/

/-- Calls that name a user by a key, in some form that passes as it, work on one user:
the profile that is read is that of the user, what is granted is added to the balances
of the user and changes no other row, and a login is one of the user. -/
structure Service.Serves (service : Service) (s : Store) (k : String) (w : User) : Prop where
  reads : ∀ {m : Moment} {d d' : Desk} {key : Value} {answer : Answer}, d.store = s →
    Input.identifier key "id" = .ok k → service.perform m (.readUser key) d = .ok answer d' →
    answer = .profile (Registry.profile w)
  /-- Where nothing goes wrong, the profile is found. -/
  finds : ∀ {m : Moment} {d : Desk} {key : Value}, d.store = s → d.Ready →
    Input.Names key "id" k →
    service.perform m (.readUser key) d = .ok (.profile (Registry.profile w)) d
  grants : ∀ {m : Moment} {d d' : Desk} {key coins gems : Value} {answer : Answer}, d.store = s →
    Input.identifier key "id" = .ok k →
    service.perform m (.grant key coins gems) d = .ok answer d' →
    ∃ b stamp, answer = .balance b ∧ b.userId = w.id ∧
      d'.store = { s with
        users := Rows.put (·.id) { w with coins := b.coins, gems := b.gems, updatedAt := stamp }
          s.users }
  logsIn : ∀ {m : Moment} {d d' : Desk} {key password : Value} {answer : Answer}, d.store = s →
    Registry.lookupText key = .ok (some k) →
    service.perform m (.login key password) d = .ok answer d' →
    Registry.checkPassword w password = .ok true ∧
      ∃ l, answer = .login l ∧ service.LogsIn d m w l d'

/-- Calls that name a user by a key work on the user whom the key means. -/
theorem Service.serves_of_means {s : Store} {k : String} {w : User} (service : Service)
    (hs : s.Sound) (hk : s.userByKey? k = some w) : service.Serves s k w where
  reads := by
    rintro m d d' key answer rfl hkey h
    obtain ⟨p, hread, rfl⟩ := Session.answer_eq_ok h
    obtain ⟨k', u, hkey', hu, rfl, -⟩ := Registry.read_eq_ok hread
    obtain rfl : k = k' := Except.ok.inj (hkey.symm.trans hkey')
    obtain rfl : w = u := Option.some.inj (hk.symm.trans hu)
    rfl
  finds := by
    rintro m d key rfl hd hkey
    exact Session.bind_ready (Registry.read_ready hd hkey hk)
  grants := by
    rintro m d d' key coins gems answer rfl hkey h
    have hdeed := Service.deed_of_perform h
    generalize d'.store = s' at hdeed ⊢
    cases hdeed with
    | look hlooks => cases hlooks
    | grant hkey' _ _ huser _ _ hwrite =>
      obtain rfl := Except.ok.inj (hkey.symm.trans hkey')
      obtain rfl := Option.some.inj (hk.symm.trans huser)
      obtain ⟨stamp, -, hs'⟩ :=
        Store.writeUser_eq_ok hs.userIds (Store.mem_of_userByKey? huser) hwrite rfl
      exact ⟨_, stamp, rfl, rfl, hs'⟩
  logsIn := by
    rintro m d d' key password answer rfl hkey h
    obtain ⟨l, hlogin, rfl⟩ := Session.answer_eq_ok h
    obtain ⟨k', u, -, hkey', hu, hpassword, -⟩ := Registry.login_eq_ok hlogin
    obtain rfl : k = k' := Option.some.inj (Except.ok.inj (hkey.symm.trans hkey'))
    obtain rfl : w = u := Option.some.inj (hk.symm.trans hu)
    exact ⟨hpassword, l, rfl, key, password, k, hkey, hk, h⟩

/-! ### Runs -/

/-- Names and email addresses pass as keys as they are. -/
theorem User.InDomain.identifier {u : User} (hu : u.InDomain) :
    ∀ k ∈ [u.name, u.email], Input.identifier (.text k) "id" = .ok k := by
  have hname : Input.IsLabel 255 u.name :=
    { hu.name with length := Nat.le_trans hu.name.length (by decide) }
  intro k hk
  simp only [List.mem_cons, List.not_mem_nil, or_false] at hk
  rcases hk with rfl | rfl
  · exact Input.text_of_isLabel hname
  · exact Input.text_of_isLabel hu.email

/-- **In every store that a run reaches, the id of a user means the user; the name and
the email address do if and only if nobody has them in an earlier column.**  Otherwise
they mean the one who has.  Whoever it is, reads, grants and logins under that key work
on the user whom it means, and names and addresses are keys as they stand. -/
theorem means_own_keys (service : Service) (d : Desk) (steps : List Step) {s : Store}
    (hs : (service.run { d with store := {} } steps).store = s) {u : User} (hu : u ∈ s.users) :
    s.userByKey? u.id = some u ∧
      (∀ k ∈ [u.name, u.email], Input.identifier (.text k) "id" = .ok k) ∧
      ∀ k ∈ u.aliases,
        (s.userByKey? k = some u ↔ ∀ v ∈ s.users, u.column k ≤ v.column k) ∧
        ∃ w ∈ s.users, k ∈ w.aliases ∧ (∀ v ∈ s.users, w.column k ≤ v.column k) ∧
          s.userByKey? k = some w ∧ service.Serves s k w := by
  have past := service.chronicle { d with store := {} } steps
  rw [hs] at past
  have hsound := past.sound .empty
  refine ⟨hsound.userByKey?_id hu, (past.inDomain.users u hu).identifier, fun k hk => ⟨?_, ?_⟩⟩
  · rw [hsound.userByKey?_iff]
    exact ⟨fun h => h.2.2, fun h => ⟨hu, hk, h⟩⟩
  · obtain ⟨w, hw⟩ := Store.exists_userByKey? hu hk
    obtain ⟨hmem, hkey, hfirst⟩ := hsound.userByKey?_iff.1 hw
    exact ⟨w, hmem, hkey, hfirst, hw, service.serves_of_means hsound hw⟩

/-! ### An address that is a name -/

namespace Postbox

open Namesake

/-- Somebody registers, and then somebody else with the address of the first as a
name. -/
def arrivals : List Step :=
  [⟨noon, .register (.text "ada") (.text "a@b.c") (.text "pw")⟩,
    ⟨noon, .register (.text "a@b.c") (.text "x@y.z") (.text "pw")⟩]

def bob : User := user "u2" "a@b.c" "x@y.z"

/-- The tables in the end. -/
def tables : Store :=
  { users := [ada, bob]
    stats := [{ id := "s1", userId := "u1" }, { id := "s2", userId := "u2" }] }

theorem run_arrivals : service.run { desk with store := {} } arrivals = { store := tables } :=
  run_two rfl (by decide)

end Postbox

open Namesake Postbox in
/-- The id of the first user means the user, and so does the name. -/
theorem means_own_keys_ada :
    (service.run { desk with store := {} } arrivals).store = tables ∧
      ada ∈ tables.users ∧ tables.userByKey? ada.id = some ada ∧
      tables.userByKey? ada.name = some ada := by
  have hrun : (service.run { desk with store := {} } arrivals).store = tables :=
    congrArg Desk.store run_arrivals
  have hada : ada ∈ tables.users := .head _
  obtain ⟨hid, -, hkeys⟩ := means_own_keys service desk arrivals hrun hada
  refine ⟨hrun, hada, hid, (hkeys ada.name (.tail _ (.head _))).1.2 ?_⟩
  -- Nobody has the name of the first user as an id.
  intro v hv
  simp only [tables, List.mem_cons, List.not_mem_nil, or_false] at hv
  rcases hv with rfl | rfl <;> decide

open Namesake Postbox in
/-- The address of the first user means the second one, whose profile is read under
it. -/
theorem address_means_newcomer :
    ∃ s, (service.run { desk with store := {} } arrivals).store = s ∧ ada ∈ s.users ∧
      bob ≠ ada ∧ s.userByKey? ada.email = some bob ∧
      service.perform noon (.readUser (.text ada.email)) { store := s } =
        .ok (.profile (Registry.profile bob)) { store := s } :=
  ⟨tables, congrArg Desk.store run_arrivals, .head _, by decide, rfl, rfl⟩

end Guildhall
