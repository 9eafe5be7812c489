/-
Guildhall/Proofs/Refusal.lean

Work on a storage that may be closed.  Work on the rows leaves the connection alone, so that
what opens and closes the storage decides alone whether later work is refused:

    the work is refused   if and only if   the connection is closed.

Main statements: `Session.transaction_refused_iff`, `Maintenance.refused_iff`.
-/
import Guildhall.Store.Maintenance
import Guildhall.Proofs.Commuting

namespace Guildhall

/-! ### Work that leaves the connection alone -/

namespace Session

variable {α β : Type}

/-- Work that leaves the connection alone and meets no trouble where there is none. -/
def Anchored (x : Session α) : Prop :=
  ∀ d : Desk, d.trouble = [] → (left (x d)).link = d.link ∧ (left (x d)).trouble = []

theorem Steady.anchored {x : Session α} (h : Steady x) : Anchored x := by
  intro d hd
  obtain ⟨s, hs⟩ := h d hd
  rw [hs]
  exact ⟨rfl, hd⟩

theorem anchored_takeRowId : Anchored takeRowId := fun _ hd => ⟨rfl, hd⟩

theorem Anchored.bind {x : Session α} {f : α → Session β} (hx : Anchored x)
    (hf : ∀ a, Anchored (f a)) : Anchored (x >>= f) := by
  intro d hd
  obtain ⟨hlink, htrouble⟩ := hx d hd
  show (left (EStateM.bind x f d)).link = _ ∧ (left (EStateM.bind x f d)).trouble = _
  unfold EStateM.bind
  cases h : x d with
  | ok a d' =>
    rw [h] at hlink htrouble
    obtain ⟨hlink', htrouble'⟩ := hf a d' htrouble
    exact ⟨hlink'.trans hlink, htrouble'⟩
  | error stop d' =>
    rw [h] at hlink htrouble
    exact ⟨hlink, htrouble⟩

theorem Anchored.committing {work : Session α} (h : Anchored work) : Anchored (committing work) :=
  h.bind fun _ => steady_send.anchored.bind fun _ => steady_pure.anchored

theorem Anchored.transaction {work : Session α} (h : Anchored work) :
    Anchored (transaction work) := by
  intro d hd
  obtain ⟨hlink, htrouble⟩ := h.committing d hd
  unfold Session.transaction
  cases d.checkTables with
  | error stop => exact ⟨rfl, hd⟩
  | ok _ =>
    dsimp only
    cases hdone : Session.committing work d with
    | ok a d' =>
      rw [hdone] at hlink htrouble
      exact ⟨hlink, htrouble⟩
    | error stop d' =>
      rw [hdone] at htrouble
      exact ⟨rfl, htrouble⟩

theorem Anchored.reporting {f g : Failure} {work : Session α} (h : Anchored work) :
    Anchored (reporting f g work) := by
  intro d hd
  have hleft : left (Session.reporting f g work d) = left (work d) := by
    unfold Session.reporting
    cases work d with
    | ok a d' => rfl
    | error stop d' => cases stop <;> rfl
  rw [hleft]
  exact h d hd

theorem anchored_lift {x : Except Stop α} : Anchored (liftM x : Session α) := steady_lift.anchored

/-- Work that never says itself, where there is no trouble, that the storage is closed. -/
def Admitted (x : Session α) : Prop :=
  ∀ d d' : Desk, d.trouble = [] → x d ≠ .error (.notReady .storage) d'

/-! ### Refusals -/

variable {d : Desk} {work : Session α}

/-- Work stops alike, whatever it would have answered. -/
theorem error_eq_iff {stop stop' : Stop} :
    (Except.error stop : Except Stop α) = .error stop' ↔
      (Except.error stop : Except Stop β) = .error stop' := by
  rw [Except.error.injEq, Except.error.injEq]

theorem send_of_calm (hd : d.trouble = []) : send d = .ok () d := by
  unfold send
  rw [hd]

theorem committing_ne_refused (hd : d.trouble = []) (hwork : Anchored work)
    (hadmitted : Admitted work) (d' : Desk) :
    committing work d ≠ .error (.notReady .storage) d' := by
  have htrouble := (hwork d hd).2
  show EStateM.bind work (fun a => send >>= fun _ => pure a) d ≠ _
  unfold EStateM.bind
  cases h : work d with
  | error stop d₁ =>
    intro heq
    cases heq
    exact hadmitted d d' hd h
  | ok a d₁ =>
    rw [h] at htrouble
    show EStateM.bind send (fun _ => pure a) d₁ ≠ _
    unfold EStateM.bind
    rw [send_of_calm (d := d₁) htrouble]
    exact nofun

theorem checkLink_refused_iff (d : Desk) :
    d.checkLink = .error (.notReady .storage) ↔ d.link = .closed := by
  unfold Desk.checkLink
  cases d.link with
  | closed => exact iff_of_true rfl rfl
  | up | broken | unanswered => exact iff_of_false nofun nofun

theorem checkTables_refused_iff (d : Desk) :
    d.checkTables = .error (.notReady .storage) ↔ d.link = .closed := by
  rw [← checkLink_refused_iff]
  show (d.checkLink >>= fun _ => _) = _ ↔ _
  cases d.checkLink with
  | error stop => exact Iff.rfl
  | ok _ =>
    show (if d.tables then Except.ok () else Except.error Stop.storage) = _ ↔ _
    split
    · exact iff_of_false nofun nofun
    · exact iff_of_false nofun nofun

/-- **A transaction is refused** just when the storage is closed. -/
theorem transaction_refused_iff (hd : d.trouble = []) (hwork : Anchored work)
    (hadmitted : Admitted work) :
    outcome (transaction work d) = .error (.notReady .storage) ↔ d.link = .closed := by
  have hcommitting := committing_ne_refused hd hwork hadmitted
  rw [← checkTables_refused_iff]
  unfold transaction
  cases d.checkTables with
  | error stop => exact error_eq_iff
  | ok _ =>
    dsimp only
    refine iff_of_false ?_ nofun
    cases h : committing work d with
    | ok a d' => exact nofun
    | error stop d' =>
      intro heq
      cases heq
      exact hcommitting d' h

end Session

open Session

theorem Maintenance.anchored_checkLink : Anchored checkLink := by
  intro d hd
  show (left ((liftM d.checkLink : Session Unit) d)).link = _ ∧
    (left ((liftM d.checkLink : Session Unit) d)).trouble = _
  exact anchored_lift d hd

/-- **Work that goes on only if the storage can be reached is refused** just when the storage
is closed. -/
theorem Maintenance.refused_iff {d : Desk} {work : Unit → Session Value}
    (hwork : ∀ d', work () d ≠ .error (.notReady .storage) d') :
    outcome ((checkLink >>= work) d) = .error (.notReady .storage) ↔ d.link = .closed := by
  rw [← checkLink_refused_iff]
  show outcome (EStateM.bind (liftM d.checkLink) work d) = _ ↔ _
  unfold EStateM.bind
  cases d.checkLink with
  | error stop => exact error_eq_iff
  | ok _ =>
    refine iff_of_false ?_ nofun
    show outcome (work () d) ≠ _
    cases h : work () d with
    | ok a d' => exact nofun
    | error stop d' =>
      intro heq
      cases heq
      exact hwork d' h

theorem Maintenance.anchored_makeTables : Anchored makeTables :=
  anchored_checkLink.bind fun _ d hd => by
    show (if d.tables then d else _).link = _ ∧ (if d.tables then d else _).trouble = _
    split
    · exact ⟨rfl, hd⟩
    · exact ⟨rfl, hd⟩

theorem Maintenance.anchored_dropTables : Anchored dropTables :=
  anchored_checkLink.bind fun _ _ hd => ⟨rfl, hd⟩

theorem Bulletin.anchored_create {m : Moment} {title text link : Value} :
    Anchored (create m title text link) := by
  refine anchored_lift.bind fun t => anchored_lift.bind fun x => anchored_lift.bind fun l =>
    .reporting (.transaction ?_)
  refine steady_store.anchored.bind fun s => anchored_lift.bind fun _ =>
    anchored_takeRowId.bind fun id => anchored_lift.bind fun _ => anchored_lift.bind fun _ => ?_
  exact steady_run.anchored.bind fun _ => steady_flush.anchored.bind fun _ => steady_pure.anchored

end Guildhall
