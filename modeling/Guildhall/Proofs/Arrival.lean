/-
Guildhall/Proofs/Arrival.lean

The first step of many runs: somebody registers at a desk where nothing goes wrong, under a
name and an address that nobody has.  The user is added with the digest of the password, and
empty statistics are, and the run goes on:

    run d (register :: steps)  =  run { d with store := s₂ } steps

The digest is a name for itself in this, and it is never worked out.

Main statements: `Registry.register_ready` and `Service.run_register`.
-/
import Guildhall.Proofs.Ready
import Guildhall.Proofs.Run

namespace Guildhall

open Session

variable {m : Moment} {d : Desk} {name email password : Value} {n e p : String} {s₁ s₂ : Store}

/-- Registering at a desk where nothing goes wrong adds the user and empty statistics. -/
theorem Registry.register_ready (hd : d.Ready) (hm : m.fault = none)
    (hname : Input.text name "name" (some Input.nameLimit) = .ok n)
    (hemail : Input.email email "email" = .ok e)
    (hpassword : Input.text password "password" none = .ok p)
    (hfree : ensureFree d.store name email n e = .ok ()) (hbytes : checkBytes password = .ok ())
    (huser : d.store.insertUser (newcomer m.now d.supply.nextRow.1 n e p) = .ok s₁)
    (hstats : s₁.insertStats { id := d.supply.nextRow.2.nextRow.1, userId := d.supply.nextRow.1 } =
      .ok s₂) :
    register m name email password d =
      .ok (profile (newcomer m.now d.supply.nextRow.1 n e p))
        { d with store := s₂, supply := d.supply.nextRow.2.nextRow.2 } := by
  have hnamed : ∀ store supply, Desk.Ready { d with store, supply } := hd.holding
  unfold register
  rw [passed_ready hname, passed_ready hemail, passed_ready hpassword]
  refine reporting_ready (transaction_ready hd ?_ (hnamed _ _))
  rw [bind_ready (store_ready hd), passed_ready hfree, passed_ready hbytes]
  -- The id of the user is taken, and then that of the statistics.
  show (run (·.insertUser (newcomer m.now d.supply.nextRow.1 n e p)) >>= _)
    { d with supply := d.supply.nextRow.2 } = _
  rw [bind_ready (run_ready (hnamed _ _) huser), bind_ready (flush_ready (hnamed _ _) hm)]
  show (run (·.insertStats { id := d.supply.nextRow.2.nextRow.1, userId := d.supply.nextRow.1 }) >>=
    _) { d with store := s₁, supply := d.supply.nextRow.2.nextRow.2 } = _
  rw [bind_ready (run_ready (hnamed _ _) hstats), bind_ready (flush_ready (hnamed _ _) hm)]
  rfl

/-- A run that begins with a registration goes on with the user there. -/
theorem Service.run_register (service : Service) (steps : List Step) (hd : d.Ready)
    (hm : m.fault = none) (hname : Input.text name "name" (some Input.nameLimit) = .ok n)
    (hemail : Input.email email "email" = .ok e)
    (hpassword : Input.text password "password" none = .ok p)
    (hfree : Registry.ensureFree d.store name email n e = .ok ())
    (hbytes : checkBytes password = .ok ())
    (huser : d.store.insertUser (Registry.newcomer m.now d.supply.nextRow.1 n e p) = .ok s₁)
    (hstats : s₁.insertStats { id := d.supply.nextRow.2.nextRow.1, userId := d.supply.nextRow.1 } =
      .ok s₂) :
    service.run d (⟨m, .register name email password⟩ :: steps) =
      service.run { d with store := s₂, supply := d.supply.nextRow.2.nextRow.2 } steps := by
  have hperform : service.perform m (.register name email password) d = .ok _ _ :=
    bind_ready (Registry.register_ready hd hm hname hemail hpassword hfree hbytes huser hstats)
  rw [run, take, hperform]

/-! ### A first user -/

namespace Registry

/-- A user with the password `pw`. -/
def member (now : Instant) (id name email : String) : User :=
  { id, name, email,
    password := "30c952fab122c3f9759f02a6d95c3758b246b4fee239957b2d4fee46e26170c4",
    createdAt := now, updatedAt := now }

theorem hashPassword_pw :
    hashPassword "pw" = "30c952fab122c3f9759f02a6d95c3758b246b4fee239957b2d4fee46e26170c4" := by
  decide +kernel

theorem newcomer_pw (now : Instant) (id name email : String) :
    newcomer now id name email "pw" = member now id name email := by
  rw [newcomer, hashPassword_pw]
  rfl

end Registry

/-- A run from empty tables that begins with a registration goes on with one user. -/
theorem Service.run_ada (service : Service) (now : Instant) (id statsId : String)
    (ids : List String) (steps : List Step) :
    service.run { supply := { prepared := id :: statsId :: ids } }
        (⟨⟨now, none⟩, .register (.text "ada") (.text "a@b.c") (.text "pw")⟩ :: steps) =
      service.run
        { store :=
            { users := [Registry.member now id "ada" "a@b.c"]
              stats := [{ id := statsId, userId := id }] }
          supply := { prepared := ids } } steps := by
  have hstats : Store.insertStats { users := [Registry.newcomer now id "ada" "a@b.c" "pw"] }
      { id := statsId, userId := id } = .ok _ :=
    Store.insertStats_eq_ok.2
      ⟨by simp [Store.statsNumbers, leastStored, greatestStored], nofun, ⟨_, .head _, rfl⟩, rfl⟩
  rw [← Registry.newcomer_pw]
  exact service.run_register steps ⟨rfl, rfl, rfl⟩ rfl rfl rfl rfl rfl rfl rfl hstats

end Guildhall
