/-
Guildhall/Proofs/Atomicity.lean

A call that does not end with a result has changed nothing, or everything.
Every call is a row of checks and then one unit of work, which rolls back;
login is the only one that goes on after its unit of work, and what comes
before that point changes nothing either (`quiet_lookup`).  So a call that
is stopped before its changes are permanent has changed nothing:

    perform m call d = .error stop d'     →  d.Kept d'

If the deadline cuts it off later, while its session is being given back,
the changes are those of the call that ends with a result:

    performCut m call d = .error stop d'  →  d.Kept d' or perform m call d = .ok _ d'

Main statement: `perform_atomic`, for every call, every desk and every way
to stop, the deadline of the gate included.
-/
import Guildhall.Gateway
import Guildhall.Proofs.Session

namespace Guildhall

open Session

/-! ### Accounts -/

theorem Registry.register_atomic (m : Moment) (name email password : Value) :
    Atomic (register m name email password) :=
  .after fun _ => .after fun _ => .after fun _ => .reporting (atomic_transaction _)

theorem Registry.read_atomic (key : Value) : Atomic (read key) :=
  .after fun _ => .reportingAs (atomic_transaction _)

theorem Registry.delete_atomic (id : Value) : Atomic (delete id) :=
  .after fun _ => .reportingAs (atomic_transaction _)

theorem Registry.issue_atomic (issuer : Token.Issuer) (now : Instant) (holder : Token.Holder) :
    Atomic (issue issuer now holder) := by
  unfold issue
  cases issuer.expiry? now with
  | none =>
    rintro d stop d' ⟨⟩
    rfl
  | some expiresAt =>
    exact atomic_takeTokenId.bind (fun _ _ _ => takeTokenId_eq_ok) fun _ => atomic_lift _

theorem Registry.issueFor_atomic (issuer : Token.Issuer) (now : Instant) (u : User) :
    Atomic (issueFor issuer now u) := by
  intro d stop d' h
  unfold issueFor at h
  simp only at h
  split at h
  · cases h
  · rename_i e done hdone
    have hkept := issue_atomic _ _ _ d e done hdone
    split at h <;> cases h <;> exact hkept

/-- Looking a user up for a login changes nothing. -/
theorem Registry.quiet_lookup (key : Value) :
    Quiet (transaction do
      let key ← lookupText key
      return key.bind (← store).userByKey?) := by
  intro d a d' h
  obtain ⟨d₁, hwork, hkept⟩ := transaction_eq_ok h
  obtain ⟨key, _, hkey, hwork⟩ := bind_eq_ok.1 hwork
  obtain ⟨-, rfl⟩ := lift_eq_ok.1 hkey
  obtain ⟨s, _, hstore, hwork⟩ := bind_eq_ok.1 hwork
  obtain ⟨-, rfl⟩ := pure_eq_ok.1 hwork
  exact (store_eq_ok hstore).2.trans hkept

theorem Registry.login_atomic (issuer : Token.Issuer) (m : Moment) (key password : Value) :
    Atomic (login issuer m key password) := by
  unfold login
  apply Atomic.guarded
  refine .bind (.reportingAs (atomic_transaction _)) ?_ fun found => ?_
  · intro d found d' h
    exact quiet_lookup key d found d' (reportingAs_eq_ok.1 h)
  · cases found with
    | none => exact atomic_fail _
    | some user => exact .after fun _ => .guarded (issueFor_atomic _ _ _)

/-! ### Balances and the market -/

theorem Treasury.grant_atomic (m : Moment) (key coins gems : Value) :
    Atomic (grant m key coins gems) :=
  .after fun _ => .after fun _ => .after fun _ => .reportingAs (atomic_transaction _)

theorem Market.buy_atomic (m : Moment) (userId itemId : Value) : Atomic (buy m userId itemId) :=
  .after fun _ => .after fun _ => .reportingAs (atomic_transaction _)

theorem Market.throwAway_atomic (m : Moment) (userId itemId : Value) :
    Atomic (throwAway m userId itemId) :=
  .after fun _ => .after fun _ => .reportingAs (atomic_transaction _)

theorem Wardrobe.equip_atomic (m : Moment) (userId itemId : Value) :
    Atomic (equip m userId itemId) :=
  .after fun _ => .after fun _ => .reportingAs (atomic_transaction _)

/-! ### The catalogue -/

theorem Catalogue.create_atomic (m : Moment) (draft : Draft) : Atomic (create m draft) :=
  .after fun _ => .after fun _ => .after fun _ => .after fun _ => .after fun _ => .after fun _ =>
    .after fun _ => .after fun _ => .reporting (atomic_transaction _)

theorem Catalogue.read_atomic (id : Value) : Atomic (read id) :=
  .after fun _ => .reportingAs (atomic_transaction _)

theorem Catalogue.list_atomic : Atomic list := .reportingAs (atomic_transaction _)

theorem Catalogue.update_atomic (m : Moment) (id : Value) (change : Change) :
    Atomic (update m id change) :=
  .after fun _ => .after fun _ => .reporting (atomic_transaction _)

theorem Catalogue.delete_atomic (id : Value) : Atomic (delete id) :=
  .after fun _ => .reportingAs (atomic_transaction _)

theorem Catalogue.possessions_atomic (operation : String) (equippedOnly : Bool) (userId : Value) :
    Atomic (possessions operation equippedOnly userId) :=
  .after fun _ => .reportingAs (atomic_transaction _)

/-! ### Statistics and news -/

theorem Scoreboard.read_atomic (username : Value) : Atomic (read username) :=
  .after fun _ => .reportingAs (atomic_transaction _)

theorem Scoreboard.add_atomic (m : Moment) (username : Value) (deltas : Deltas) :
    Atomic (add m username deltas) :=
  .after fun _ => .after fun _ => .after fun _ => .after fun _ => .after fun _ =>
    .reportingAs (atomic_transaction _)

theorem Bulletin.create_atomic (m : Moment) (title description imageLink : Value) :
    Atomic (create m title description imageLink) :=
  .after fun _ => .after fun _ => .after fun _ => .reporting (atomic_transaction _)

theorem Bulletin.read_atomic (id : Value) : Atomic (read id) :=
  .after fun _ => .reportingAs (atomic_transaction _)

theorem Bulletin.list_atomic : Atomic list := .reportingAs (atomic_transaction _)

theorem Bulletin.update_atomic (m : Moment) (id title description imageLink : Value) :
    Atomic (update m id title description imageLink) :=
  .after fun _ => .after fun _ => .after fun _ => .after fun _ =>
    .reporting (atomic_transaction _)

/-! ### The service -/

/-- An answer that is made of the result of atomic work. -/
theorem Session.Atomic.answer {α β : Type} {x : Session α} (hx : Atomic x) (f : α → β) :
    Atomic (do return f (← x)) := by
  intro d stop d' h
  change EStateM.bind x _ d = _ at h
  unfold EStateM.bind at h
  split at h
  · cases h
  · rename_i e d₁ herror
    cases h
    exact hx d stop d' herror

theorem Service.atomic_perform (service : Service) (m : Moment) (call : Call) :
    Atomic (service.perform m call) := by
  cases call with
  | register name email password => exact (Registry.register_atomic m name email password).answer _
  | readUser key => exact (Registry.read_atomic key).answer _
  | updateUser => exact (atomic_fail _).answer fun _ => Answer.done
  | deleteUser id => exact (Registry.delete_atomic id).answer fun _ => Answer.done
  | listUsers => exact (atomic_fail _).answer fun _ => Answer.done
  | login key password => exact (Registry.login_atomic service.issuer m key password).answer _
  | version => exact atomic_pure
  | grant key coins gems => exact (Treasury.grant_atomic m key coins gems).answer _
  | createItem draft => exact (Catalogue.create_atomic m draft).answer _
  | readItem id => exact (Catalogue.read_atomic id).answer _
  | listItems => exact Catalogue.list_atomic.answer _
  | updateItem id change => exact (Catalogue.update_atomic m id change).answer _
  | deleteItem id => exact (Catalogue.delete_atomic id).answer fun _ => Answer.done
  | userItems userId => exact (Catalogue.possessions_atomic _ _ userId).answer _
  | equippedItems userId => exact (Catalogue.possessions_atomic _ _ userId).answer _
  | buy userId itemId => exact (Market.buy_atomic m userId itemId).answer fun _ => Answer.done
  | throwAway userId itemId =>
    exact (Market.throwAway_atomic m userId itemId).answer fun _ => Answer.done
  | equip userId itemId => exact (Wardrobe.equip_atomic m userId itemId).answer _
  | readStats username => exact (Scoreboard.read_atomic username).answer _
  | addStats username deltas => exact (Scoreboard.add_atomic m username deltas).answer _
  | createNews title description imageLink =>
    exact (Bulletin.create_atomic m title description imageLink).answer _
  | readNews id => exact (Bulletin.read_atomic id).answer _
  | listNews => exact Bulletin.list_atomic.answer _
  | updateNews id title description imageLink =>
    exact (Bulletin.update_atomic m id title description imageLink).answer _

/-- The gate stops a call, or hands on the desk with which the call stops. -/
theorem Gateway.Gate.run_eq_error {α : Type} (gate : Gate) {id : String} {now : Instant}
    {e : Entrant} {handler : Journal.Context → Session α} {c : Journal.Context} {d d' : Desk}
    {stop : Stop} (h : (gate.run id now e handler c d).result = .error stop d') :
    d' = d ∨ ∃ scope early, handler scope d = .error early d' := by
  unfold Gate.run at h
  split at h
  · cases h
    exact .inl rfl
  · split at h
    · cases h
      exact .inl rfl
    · rename_i scope _ _ _
      simp only [Gate.work] at h
      split at h
      · rename_i hhung
        cases h
        exact .inr ⟨scope, .hung, hhung⟩
      · exact .inr ⟨scope, stop, h⟩

/-- The gate starts the work of a call once and hands on its desk. -/
theorem Gateway.Gate.atomic_run {α : Type} (gate : Gate) (id : String) (now : Instant)
    (e : Entrant) {handler : Journal.Context → Session α} (h : ∀ scope, Atomic (handler scope))
    (c : Journal.Context) : Atomic fun d => (gate.run id now e handler c d).result := by
  intro d stop d' hrun
  rcases gate.run_eq_error hrun with rfl | ⟨scope, early, hearly⟩
  · exact .refl d'
  · exact h scope d early d' hearly

/-- Work that keeps its desk if it stops early leaves it as it was, or as it is left with a
result, if it may also be cut late. -/
theorem Session.Atomic.cutLate {α : Type} {x : Session α} (hx : Atomic x) {d d' : Desk}
    {stop : Stop} (h : cutLate x d = .error stop d') :
    d.Kept d' ∨ stop = .hung ∧ ∃ a, x d = .ok a d' := by
  unfold Session.cutLate at h
  cases hresult : x d with
  | ok a done =>
    rw [hresult] at h
    cases h
    exact .inr ⟨rfl, a, rfl⟩
  | error early done =>
    rw [hresult] at h
    cases h
    exact .inl (hx d stop d' hresult)

/-- **A call that does not end with a result has changed nothing**, unless the deadline cuts
it off when its changes are permanent: then it has changed what it changes if it ends with a
result.  For all that comes before, it does not matter what the desk holds, which of its
statements the storage ends and how, the one that makes the changes permanent included, at
which place and with what it breaks down, or whether it is the deadline of the gate that ends
the call. -/
theorem perform_atomic (service : Service) (m : Moment) (call : Call) (d : Desk) :
    (∀ stop d', service.perform m call d = .error stop d' → d.Kept d') ∧
      (∀ stop d', service.performCut m call d = .error stop d' →
        d.Kept d' ∨ stop = .hung ∧ ∃ answer, service.perform m call d = .ok answer d') ∧
      ∀ (gate : Gateway.Gate) (id : String) (now : Instant) (e : Gateway.Entrant)
        (c : Journal.Context) (stop : Stop) (d' : Desk),
        ((gate.run id now e (fun _ => service.perform m call) c d).result = .error stop d' →
          d.Kept d') ∧
        ((gate.run id now e (fun _ => service.performCut m call) c d).result = .error stop d' →
          d.Kept d' ∨ ∃ answer, service.perform m call d = .ok answer d') := by
  have hatomic := service.atomic_perform m call
  refine ⟨hatomic d, fun stop d' => hatomic.cutLate, fun gate id now e c stop d' => ⟨?_, ?_⟩⟩
  · exact gate.atomic_run id now e (fun _ => hatomic) c d stop d'
  · intro h
    rcases gate.run_eq_error h with rfl | ⟨_, early, hearly⟩
    · exact .inl (.refl d')
    · exact (hatomic.cutLate hearly).imp_right And.right

namespace Purse

/-- A user with some coins. -/
def buyer : User :=
  { id := "u", name := "ada", email := "a@b.c", password := "", coins := 9,
    createdAt := ⟨0⟩, updatedAt := ⟨0⟩ }

/-- Something to buy. -/
def hat : Item :=
  { id := "i", name := "hat", slot := 1, imageId := "p", base := ⟨5, 0⟩, createdAt := ⟨0⟩,
    updatedAt := ⟨0⟩ }

/-- A desk on which the user can buy it. -/
def desk : Desk := { store := { users := [buyer], items := [hat] } }

/-- A service without a signing key. -/
def service : Service := ⟨⟨"HS256", .error .keyRejected, 1000000, "", "", {}⟩, ""⟩

/-- Any caller of a public operation may pass. -/
def entrant : Gateway.Entrant := ⟨"Users/Create", .everyone, none, none⟩

end Purse

open Purse in
/-- The coins are taken, the item is handed over, and then the storage breaks
down or hangs: nothing has happened. -/
theorem perform_atomic_purchase :
    (service.perform ⟨⟨5⟩, some (.possessions, .crash)⟩ (.buy (.text "u") (.text "i")) desk
        = .error .crash desk ∧ desk.Kept desk) ∧
      (Gateway.Gate.run ⟨{}, .never⟩ "" ⟨5⟩ entrant
          (fun _ => service.perform ⟨⟨5⟩, some (.users, .hung)⟩ (.buy (.text "u") (.text "i")))
          {} desk).result = .error .hung desk ∧ desk.Kept desk := by
  have hcrash : service.perform ⟨⟨5⟩, some (.possessions, .crash)⟩
      (.buy (.text "u") (.text "i")) desk = .error .crash desk := rfl
  have hhung : (Gateway.Gate.run ⟨{}, .never⟩ "" ⟨5⟩ entrant
      (fun _ => service.perform ⟨⟨5⟩, some (.users, .hung)⟩ (.buy (.text "u") (.text "i")))
      {} desk).result = .error .hung desk := rfl
  exact ⟨⟨hcrash, (perform_atomic service _ _ desk).1 _ _ hcrash⟩, hhung,
    ((perform_atomic service _ _ desk).2.2 _ _ _ _ _ _ _).1 hhung⟩

open Purse in
/-- The coins are taken and the item is handed over for good, and then the deadline strikes:
the caller is told that the call did not end in time. -/
theorem purchase_cut_late :
    ∃ d', (Gateway.Gate.run ⟨{}, .ofInt 10⟩ "" ⟨5⟩ entrant
        (fun _ => service.performCut ⟨⟨5⟩, none⟩ (.buy (.text "u") (.text "i"))) {} desk).result =
      .error (Gateway.Deadline.expiry "Users/Create" (.ofInt 10)) d' ∧ ¬desk.Kept d' :=
  ⟨_, rfl, fun hkept => absurd (congrArg Store.possessions hkept.store) (by decide)⟩

end Guildhall
