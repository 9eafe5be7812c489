/-
Guildhall/Proofs/Session.lean

What a session does, read off its end.  A session that gives a result has
passed every statement on the way, so `x d = .ok a d'` falls apart into the
equations of its parts: `bind_eq_ok` for two pieces of work in a row, one
lemma for each kind of statement, and `transaction_eq_ok` for a unit of
work, whose last statement makes the changes permanent.

A session that stops is a matter of `Atomic`: it leaves the desk as it was,
but for the ids that were taken and the trouble that was met.  Checks are
atomic, units of work are atomic by rolling back, and atomic work may
follow quiet work, which changes nothing when it gives a result
(`Atomic.bind`).
-/
import Guildhall.Store.Session

namespace Guildhall

/-- A desk with the tables and the connection of another one. -/
structure Desk.Kept (d d' : Desk) : Prop where
  store : d'.store = d.store
  link : d'.link = d.link
  tables : d'.tables = d.tables

namespace Desk.Kept

@[refl] theorem refl (d : Desk) : d.Kept d := ⟨rfl, rfl, rfl⟩

theorem trans {d₁ d₂ d₃ : Desk} (h : d₁.Kept d₂) (h' : d₂.Kept d₃) : d₁.Kept d₃ :=
  ⟨h'.store.trans h.store, h'.link.trans h.link, h'.tables.trans h.tables⟩

end Desk.Kept

namespace Session

variable {α β : Type} {d d' : Desk} {a b : α}

/-! ### Results of the parts -/

theorem bind_eq_ok {x : Session α} {f : α → Session β} {b : β} :
    (x >>= f) d = .ok b d' ↔ ∃ a d₁, x d = .ok a d₁ ∧ f a d₁ = .ok b d' := by
  show EStateM.bind x f d = _ ↔ _
  unfold EStateM.bind
  cases h : x d with
  | ok a d₁ =>
    constructor
    · intro hf
      exact ⟨a, d₁, rfl, hf⟩
    · rintro ⟨a', d₂, ha, hf⟩
      cases ha
      exact hf
  | error stop d₁ => simp

theorem pure_eq_ok : (pure a : Session α) d = .ok b d' ↔ a = b ∧ d = d' := by
  show EStateM.Result.ok a d = _ ↔ _
  simp

theorem fail_eq_ok {f : Failure} : (fail f : Session α) d = .ok a d' ↔ False := by
  show EStateM.Result.error _ d = _ ↔ _
  simp

theorem lift_eq_ok {x : Except Stop α} :
    (liftM x : Session α) d = .ok a d' ↔ x = .ok a ∧ d = d' := by
  cases x with
  | ok b => exact pure_eq_ok.trans (by simp)
  | error stop =>
    show EStateM.Result.error stop d = _ ↔ _
    simp

/-- Work behind a guard is done only if the guard lets it pass. -/
theorem guard_eq_ok {c : Prop} [Decidable c] {f : Failure} {x : Unit → Session α} :
    (if c then fail f >>= x else x ()) d = .ok a d' ↔ ¬c ∧ x () d = .ok a d' := by
  by_cases hc : c
  · simp only [hc, if_true, not_true, false_and, iff_false]
    rintro ⟨⟩
  · simp [hc]

theorem send_eq_ok {u : Unit} (h : send d = .ok u d') : d.Kept d' ∧ d'.supply = d.supply := by
  unfold send at h
  split at h <;> cases h <;> exact ⟨⟨rfl, rfl, rfl⟩, rfl⟩

/-- Reading shows the store of the desk and changes nothing. -/
theorem store_eq_ok {s : Store} (h : store d = .ok s d') : s = d.store ∧ d.Kept d' := by
  obtain ⟨_, d₁, hsend, h⟩ := bind_eq_ok.1 h
  obtain ⟨_, _, hget, h⟩ := bind_eq_ok.1 h
  obtain ⟨rfl, rfl⟩ := pure_eq_ok.1 h
  cases hget
  have hkept := (send_eq_ok hsend).1
  exact ⟨hkept.store, hkept⟩

/-- A lookup that is made shows the store too. -/
theorem storeFor_eq_ok {given : Value} {s : Store} (h : storeFor given d = .ok s d') :
    s = d.store ∧ d.Kept d' := by
  obtain ⟨s, d₁, hstore, h⟩ := bind_eq_ok.1 h
  obtain ⟨_, _, hbytes, h⟩ := bind_eq_ok.1 h
  obtain ⟨-, rfl⟩ := lift_eq_ok.1 hbytes
  obtain ⟨rfl, rfl⟩ := pure_eq_ok.1 h
  exact store_eq_ok hstore

/-- A statement is carried out on the store of the desk. -/
theorem run_eq_ok {statement : Store → Except Stop Store} {u : Unit}
    (h : run statement d = .ok u d') :
    ∃ s, statement d.store = .ok s ∧ Desk.Kept { d with store := s } d' := by
  obtain ⟨before, d₁, hstore, h⟩ := bind_eq_ok.1 h
  obtain ⟨rfl, hkept⟩ := store_eq_ok hstore
  obtain ⟨s, _, hlift, h⟩ := bind_eq_ok.1 h
  obtain ⟨hs, rfl⟩ := lift_eq_ok.1 hlift
  cases h
  exact ⟨s, hs, rfl, hkept.link, hkept.tables⟩

theorem flush_eq_ok {m : Moment} {site : Site} {u : Unit} (h : flush m site d = .ok u d') :
    d.Kept d' := by
  obtain ⟨_, d₁, hsend, h⟩ := bind_eq_ok.1 h
  have hkept := (send_eq_ok hsend).1
  -- The fault of the moment ends this flush, or is one for another site.
  cases hfault : m.fault with
  | none =>
    rw [hfault] at h
    cases h
    exact hkept
  | some fault =>
    rw [hfault] at h
    by_cases hsite : fault.1 = site
    · simp [hsite] at h
      cases h
    · simp [hsite] at h
      cases h
      exact hkept

theorem takeRowId_eq_ok {id : String} (h : takeRowId d = .ok id d') : d.Kept d' := by
  cases h
  exact ⟨rfl, rfl, rfl⟩

theorem takeTokenId_eq :
    takeTokenId d = .ok d.supply.nextToken.1 { d with supply := d.supply.nextToken.2 } := rfl

theorem takeTokenId_eq_ok {id : String} (h : takeTokenId d = .ok id d') : d.Kept d' := by
  cases h
  exact ⟨rfl, rfl, rfl⟩

/-- A unit of work that gives a result did its work, and nothing more. -/
theorem transaction_eq_ok {work : Session α} (h : transaction work d = .ok a d') :
    ∃ d₁, work d = .ok a d₁ ∧ d₁.Kept d' := by
  unfold transaction at h
  split at h
  · cases h
  · split at h
    · rename_i b done hdone
      cases h
      obtain ⟨b, d₁, hwork, hdone⟩ := bind_eq_ok.1 hdone
      obtain ⟨_, d₂, hsend, hdone⟩ := bind_eq_ok.1 hdone
      obtain ⟨rfl, rfl⟩ := pure_eq_ok.1 hdone
      exact ⟨d₁, hwork, (send_eq_ok hsend).1⟩
    · cases h

theorem reporting_eq_ok {f g : Failure} {work : Session α} :
    reporting f g work d = .ok a d' ↔ work d = .ok a d' := by
  unfold reporting
  split <;> simp_all

theorem reportingAs_eq_ok {f : Failure} {work : Session α} :
    reportingAs f work d = .ok a d' ↔ work d = .ok a d' := reporting_eq_ok

/-! ### The next part and the rest

Work in a row, taken apart at its first part.  Of the desk in between only the
store is of interest. -/

theorem after_eq_ok {x : Except Stop α} {f : α → Session β} {b : β} :
    ((liftM x : Session α) >>= f) d = .ok b d' ↔ ∃ a, x = .ok a ∧ f a d = .ok b d' := by
  rw [bind_eq_ok]
  constructor
  · rintro ⟨a, _, hlift, hf⟩
    obtain ⟨hx, rfl⟩ := lift_eq_ok.1 hlift
    exact ⟨a, hx, hf⟩
  · rintro ⟨a, hx, hf⟩
    exact ⟨a, d, lift_eq_ok.2 ⟨hx, rfl⟩, hf⟩

theorem after_store_eq_ok {f : Store → Session β} {b : β} (h : (store >>= f) d = .ok b d') :
    ∃ d₁, d₁.store = d.store ∧ f d.store d₁ = .ok b d' := by
  obtain ⟨s, d₁, hstore, h⟩ := bind_eq_ok.1 h
  obtain ⟨rfl, hkept⟩ := store_eq_ok hstore
  exact ⟨d₁, hkept.store, h⟩

theorem after_storeFor_eq_ok {given : Value} {f : Store → Session β} {b : β}
    (h : (storeFor given >>= f) d = .ok b d') :
    ∃ d₁, d₁.store = d.store ∧ f d.store d₁ = .ok b d' := by
  obtain ⟨s, d₁, hstore, h⟩ := bind_eq_ok.1 h
  obtain ⟨rfl, hkept⟩ := storeFor_eq_ok hstore
  exact ⟨d₁, hkept.store, h⟩

theorem after_run_eq_ok {statement : Store → Except Stop Store} {f : Unit → Session β} {b : β}
    (h : (run statement >>= f) d = .ok b d') :
    ∃ d₁, statement d.store = .ok d₁.store ∧ f () d₁ = .ok b d' := by
  obtain ⟨_, d₁, hrun, h⟩ := bind_eq_ok.1 h
  obtain ⟨s, hs, hkept⟩ := run_eq_ok hrun
  exact ⟨d₁, hs.trans (congrArg _ hkept.store.symm), h⟩

theorem after_flush_eq_ok {m : Moment} {site : Site} {f : Unit → Session β} {b : β}
    (h : (flush m site >>= f) d = .ok b d') : ∃ d₁, d₁.store = d.store ∧ f () d₁ = .ok b d' := by
  obtain ⟨_, d₁, hflush, h⟩ := bind_eq_ok.1 h
  exact ⟨d₁, (flush_eq_ok hflush).store, h⟩

theorem after_takeRowId_eq_ok {f : String → Session β} {b : β}
    (h : (takeRowId >>= f) d = .ok b d') : ∃ id d₁, d₁.store = d.store ∧ f id d₁ = .ok b d' := by
  obtain ⟨id, d₁, htake, h⟩ := bind_eq_ok.1 h
  exact ⟨id, d₁, (takeRowId_eq_ok htake).store, h⟩

/-- A reported unit of work, of which the result is its work's. -/
theorem reported_eq_ok {f g : Failure} {work : Session α}
    (h : reporting f g (transaction work) d = .ok a d') :
    ∃ d₁, work d = .ok a d₁ ∧ d'.store = d₁.store := by
  obtain ⟨d₁, hwork, hkept⟩ := transaction_eq_ok (reporting_eq_ok.1 h)
  exact ⟨d₁, hwork, hkept.store⟩

/-! ### Work that stops -/

/-- Work that leaves the tables alone when it stops. -/
def Atomic (x : Session α) : Prop := ∀ d stop d', x d = .error stop d' → d.Kept d'

/-- Work that leaves the tables alone when it gives a result. -/
def Quiet (x : Session α) : Prop := ∀ d a d', x d = .ok a d' → d.Kept d'

theorem atomic_pure : Atomic (pure a : Session α) := by
  rintro d stop d' ⟨⟩

theorem atomic_fail (f : Failure) : Atomic (fail f : Session α) := by
  rintro d stop d' ⟨⟩
  rfl

theorem atomic_lift (x : Except Stop α) : Atomic (liftM x : Session α) := by
  rintro d stop d' h
  cases x <;> cases h
  rfl

theorem quiet_lift (x : Except Stop α) : Quiet (liftM x : Session α) := by
  rintro d a d' h
  obtain ⟨-, rfl⟩ := lift_eq_ok.1 h
  rfl

theorem atomic_takeTokenId : Atomic takeTokenId := by
  rintro d stop d' ⟨⟩

/-- After quiet work, work that stops leaves the tables as they were before
both. -/
theorem Atomic.bind {x : Session α} {f : α → Session β} (hx : Atomic x) (hquiet : Quiet x)
    (hf : ∀ a, Atomic (f a)) : Atomic (x >>= f) := by
  intro d stop d' h
  change EStateM.bind x f d = _ at h
  unfold EStateM.bind at h
  split at h
  · rename_i a d₁ hok
    -- The first part gave a result and was quiet; the second one stopped.
    exact (hquiet d a d₁ hok).trans (hf a d₁ stop d' h)
  · rename_i e d₁ herror
    -- The first part stopped itself.
    cases h
    exact hx d stop d' herror

/-- A check comes before the work. -/
theorem Atomic.after {x : Except Stop α} {f : α → Session β} (hf : ∀ a, Atomic (f a)) :
    Atomic ((liftM x : Session α) >>= f) :=
  (atomic_lift x).bind (quiet_lift x) hf

/-- A guard comes before the work. -/
theorem Atomic.guarded {c : Prop} [Decidable c] {f : Failure} {x : Unit → Session α}
    (hx : Atomic (x ())) : Atomic (if c then fail f >>= x else x ()) := by
  split
  · rintro d stop d' ⟨⟩
    rfl
  · exact hx

/-- A unit of work rolls back, wherever it stopped. -/
theorem atomic_transaction (work : Session α) : Atomic (transaction work) := by
  intro d stop d' h
  unfold transaction at h
  split at h
  · cases h
    rfl
  · split at h
    · cases h
    · -- The work stopped: the desk gets back the store of before.
      cases h
      exact ⟨rfl, rfl, rfl⟩

/-- What the caller sees of a stop is no matter of the tables. -/
theorem Atomic.reporting {f g : Failure} {work : Session α} (h : Atomic work) :
    Atomic (reporting f g work) := by
  intro d stop d' hstop
  unfold Session.reporting at hstop
  split at hstop
  · rename_i done hdone
    cases hstop
    exact h d _ d' hdone
  · rename_i done hdone
    cases hstop
    exact h d _ d' hdone
  · exact h d stop d' hstop

theorem Atomic.reportingAs {f : Failure} {work : Session α} (h : Atomic work) :
    Atomic (reportingAs f work) := h.reporting

end Session

end Guildhall
