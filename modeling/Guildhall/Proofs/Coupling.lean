/-
Guildhall/Proofs/Coupling.lean

Two pieces of work side by side, each at a desk of its own.  The desks are the same but
for what a view hides.  The two are coupled if they come to ends that the view does not
tell apart either: both stop, in the same way, or both give results, and the results fit
together (`Session.Coupled`).

There is a rule for each way in which work is put together, so that two runs of one
operation are coupled step by step.  What one run holds in between, such as a row that it
has found, need not be what the other one holds; the relation on results says how far the
two agree.  Work within the view is coupled with itself.

Main statements: `Session.Coupled.bind`, `Session.Coupled.reading`,
`Session.coupled_run` and `Session.Coupled.transaction`.
-/
import Guildhall.Proofs.Commuting

namespace Guildhall.Session

variable {α β γ δ : Type} {v : Store → Store} {m : Moment} {d d' : Desk} {R : α → β → Prop}
  {S : γ → δ → Prop}

/-! ### Ends that are alike -/

/-- Two ends that a view does not tell apart, of which the results fit together. -/
inductive Alike (v : Store → Store) (R : α → β → Prop) :
    EStateM.Result Stop Desk α → EStateM.Result Stop Desk β → Prop
  | ok {a : α} {b : β} {d d' : Desk} (hfit : R a b) (hseen : d.seen v = d'.seen v) :
      Alike v R (.ok a d) (.ok b d')
  | error {stop : Stop} {d d' : Desk} (hseen : d.seen v = d'.seen v) :
      Alike v R (.error stop d) (.error stop d')

/-- Ends with the same results are alike if and only if a view shows the same of them. -/
theorem alike_iff {r r' : EStateM.Result Stop Desk α} :
    Alike v Eq r r' ↔ outcome r = outcome r' ∧ (left r).seen v = (left r').seen v := by
  constructor
  · intro h
    cases h with
    | ok hfit hseen => exact ⟨congrArg Except.ok hfit, hseen⟩
    | error hseen => exact ⟨rfl, hseen⟩
  · rintro ⟨hend, hseen⟩
    cases r <;> cases r' <;> cases hend
    · exact .ok rfl hseen
    · exact .error hseen

/-- Two pieces of work come to ends that are alike, if a view shows the same of the desks
at which they are done. -/
def Coupled (v : Store → Store) (R : α → β → Prop) (x : Session α) (y : Session β)
    (d d' : Desk) : Prop :=
  d.seen v = d'.seen v → Alike v R (x d) (y d')

/-- Work that is within a view is coupled with itself. -/
theorem coupled_of_within {x : Session α} (hx : ∀ d, Within v x d) : Coupled v Eq x x d d' := by
  intro hd
  have hleft : x (d.seen v) = seen v (x d) := hx d
  have hright : x (d'.seen v) = seen v (x d') := hx d'
  have hends : seen v (x d) = seen v (x d') := by rw [← hleft, ← hright, hd]
  exact alike_iff.2 (eq_of_seen hends)

/-! ### Work in a row -/

theorem coupled_pure {a : α} {b : β} (hfit : R a b) : Coupled v R (pure a) (pure b) d d' :=
  .ok hfit

theorem coupled_fail {f : Failure} : Coupled v R (fail f) (fail f) d d' := .error

/-- Work in a row is coupled if what comes first is and what comes next is, whatever
results fit together. -/
theorem Coupled.bind {x : Session α} {y : Session β} {f : α → Session γ} {g : β → Session δ}
    (hx : Coupled v R x y d d')
    (hf : ∀ a b e e', x d = .ok a e → y d' = .ok b e' → R a b → Coupled v S (f a) (g b) e e') :
    Coupled v S (x >>= f) (y >>= g) d d' := by
  intro hd
  have hends := hx hd
  show Alike v S (EStateM.bind x f d) (EStateM.bind y g d')
  unfold EStateM.bind
  generalize hr : x d = r at hends
  generalize hr' : y d' = r' at hends
  cases hends with
  | ok hfit hseen => exact hf _ _ _ _ hr hr' hfit hseen
  | error hseen => exact .error hseen

/-- Work in a row of which the first part gives the same result on both sides. -/
theorem Coupled.andThen {x y : Session α} {f : α → Session γ} {g : α → Session δ}
    (hx : Coupled v Eq x y d d') (hf : ∀ a e e', Coupled v S (f a) (g a) e e') :
    Coupled v S (x >>= f) (y >>= g) d d' :=
  hx.bind fun a _ e e' _ _ hab => hab ▸ hf a e e'

/-- A check leaves both desks as they are. -/
theorem Coupled.after {x : Except Stop α} {f : α → Session γ} {g : α → Session δ}
    (hf : ∀ a, x = .ok a → Coupled v S (f a) (g a) d d') :
    Coupled v S ((liftM x : Session α) >>= f) ((liftM x : Session α) >>= g) d d' := by
  cases x with
  | ok a => exact hf a rfl
  | error stop => exact .error

/-- Work behind a guard. -/
theorem Coupled.guarded {c : Prop} [Decidable c] {f : Failure} {x : Unit → Session γ}
    {y : Unit → Session δ} (hx : ¬c → Coupled v S (x ()) (y ()) d d') :
    Coupled v S (if c then fail f >>= x else x ()) (if c then fail f >>= y else y ()) d d' := by
  by_cases hc : c
  · rw [if_pos hc, if_pos hc]
    exact .error
  · rw [if_neg hc, if_neg hc]
    exact hx hc

/-! ### Work on the store -/

theorem coupled_send : Coupled v Eq send send d d' := coupled_of_within fun _ => within_send

theorem coupled_flush {site : Site} : Coupled v Eq (flush m site) (flush m site) d d' :=
  coupled_of_within fun _ => within_flush

theorem coupled_takeRowId : Coupled v Eq takeRowId takeRowId d d' :=
  coupled_of_within fun _ => within_takeRowId

theorem coupled_takeTokenId : Coupled v Eq takeTokenId takeTokenId d d' :=
  coupled_of_within fun _ => within_takeTokenId

/-- Work that reads the store: each side reads its own. -/
theorem Coupled.reading {f : Store → Session γ} {g : Store → Session δ}
    (hf : ∀ e e', e.store = d.store → e'.store = d'.store → v d.store = v d'.store →
      Coupled v S (f d.store) (g d'.store) e e') :
    Coupled v S (store >>= f) (store >>= g) d d' := by
  intro hd
  have hstores : v d.store = v d'.store := congrArg Desk.store hd
  have hread : Coupled v (fun s s' => s = d.store ∧ s' = d'.store) store store d d' := by
    refine coupled_send.bind fun _ _ e e' he he' _ => ?_
    exact coupled_pure ⟨(send_eq_ok he).1.store, (send_eq_ok he').1.store⟩
  refine hread.bind (fun s s' e e' he he' hs => ?_) hd
  obtain ⟨rfl, rfl⟩ := hs
  exact hf e e' (store_eq_ok he).2.store (store_eq_ok he').2.store hstores

/-- Lookups by one key: each side reads its own store. -/
theorem Coupled.readingFor {given : Value} {f : Store → Session γ} {g : Store → Session δ}
    (hf : ∀ e e', e.store = d.store → e'.store = d'.store → v d.store = v d'.store →
      Coupled v S (f d.store) (g d'.store) e e') :
    Coupled v S (storeFor given >>= f) (storeFor given >>= g) d d' := by
  unfold storeFor
  rw [bind_assoc, bind_assoc]
  refine .reading fun e e' he he' hstores => ?_
  rw [bind_assoc, bind_assoc]
  refine .after fun _ _ => ?_
  rw [pure_bind, pure_bind]
  exact hf e e' he he' hstores

/-- Two statements that are one statement on what the view shows. -/
theorem coupled_run {w statement statement' : Store → Except Stop Store}
    (h : w (v d.store) = (statement d.store).map v)
    (h' : w (v d'.store) = (statement' d'.store).map v) :
    Coupled v Eq (run statement) (run statement') d d' := by
  refine .reading fun e e' _ _ hstores hseen => ?_
  have hresults : (statement d.store).map v = (statement' d'.store).map v := by
    rw [← h, ← h', hstores]
  generalize statement d.store = r at hresults
  generalize statement' d'.store = r' at hresults
  cases r with
  | error stop =>
    cases r' with
    | error stop' =>
      cases hresults
      exact .error hseen
    | ok s' => cases hresults
  | ok s =>
    cases r' with
    | error stop' => cases hresults
    | ok s' =>
      refine .ok rfl ?_
      show ({ e.seen v with store := v s } : Desk) = { e'.seen v with store := v s' }
      rw [hseen, Except.ok.inj hresults]

/-- Units of work, each of which gives back the store of before if it stops. -/
theorem Coupled.transaction {x : Session α} {y : Session β} (h : Coupled v R x y d d') :
    Coupled v R (transaction x) (transaction y) d d' := by
  intro hd
  have hcommitting : Coupled v R (committing x) (committing y) d d' :=
    h.bind fun _ _ _ _ _ _ hfit => coupled_send.andThen fun _ _ _ => coupled_pure hfit
  have hopen : d.checkTables = d'.checkTables := by
    show (d.seen v).checkTables = (d'.seen v).checkTables
    rw [hd]
  have hends := hcommitting hd
  unfold Session.transaction
  rw [hopen]
  cases d'.checkTables with
  | error stop => exact .error hd
  | ok _ =>
    dsimp only
    generalize committing x d = r at hends
    generalize committing y d' = r' at hends
    cases hends with
    | ok hfit hseen => exact .ok hfit hseen
    | @error stop e e' hseen =>
      refine .error ?_
      show ({ d.seen v with supply := (e.seen v).supply, trouble := (e.seen v).trouble } : Desk) =
        { d'.seen v with supply := (e'.seen v).supply, trouble := (e'.seen v).trouble }
      rw [hd, hseen]

theorem Coupled.reporting {f g : Failure} {x : Session α} {y : Session β}
    (h : Coupled v R x y d d') : Coupled v R (reporting f g x) (reporting f g y) d d' := by
  intro hd
  have hends := h hd
  unfold Session.reporting
  generalize x d = r at hends
  generalize y d' = r' at hends
  cases hends with
  | ok hfit hseen => exact .ok hfit hseen
  | @error stop _ _ hseen => cases stop <;> exact .error hseen

end Guildhall.Session
