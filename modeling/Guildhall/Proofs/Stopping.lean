/-
Guildhall/Proofs/Stopping.lean

Failures that a piece of work does not report.  What the storage says to a
statement, and where it breaks down, is no matter of the work itself: such a
stop is brought in by the desk or by the moment (`Brings`).  Work avoids a
kind of failure at a desk if it stops with one only when it is brought in
(`Avoids`).  What two pieces of work avoid is avoided by one after the other,
and a unit of work, which rolls back and reports, avoids what its work does.

Checks of input come to no other failure than a complaint about a field; besides, they
stop at an infinite number and at one with too many digits to be complained about
(`Input.Complains`).
-/
import Guildhall.Input
import Guildhall.Proofs.Session
import Guildhall.Proofs.Statement

namespace Guildhall

/-! ### Checks of input -/

namespace Input

/-- What a check of some arguments may stop with: a complaint about a field, an infinite
one among them, or a number of too many digits. -/
inductive Refusal (args : List Value) : Stop → Prop
  | complaint (field : String) (complaint : Complaint) :
      Refusal args (.failure (.invalid field complaint))
  | infinite {negative : Bool} (h : .float (.infinite negative) ∈ args) : Refusal args .overflow
  | unwritable : Refusal args (.badValue tooManyDigits)

/-- A check of some arguments that stops with nothing but a complaint about a field or a
number that cannot be looked at. -/
def Complains {α : Type} (args : List Value) (x : Except Stop α) : Prop :=
  Except.Only (Refusal args) x

variable {α β : Type} {args : List Value} {v given : Value} {field : String}

theorem complains_ok {a : α} : Complains args (.ok a) := Except.Only.ok

theorem complains_reject {complaint : Complaint} :
    Complains args (reject given field complaint : Except Stop α) := by
  intro stop h
  unfold reject at h
  split at h
  · cases h
    exact .complaint field complaint
  · cases h
    exact .unwritable

theorem Complains.bind {x : Except Stop α} {f : α → Except Stop β} (hx : Complains args x)
    (hf : ∀ a, Complains args (f a)) : Complains args (x >>= f) :=
  Except.Only.bind hx fun a _ => hf a

theorem complains_toInteger (hv : v ∈ args) : Complains args (toInteger v field) := by
  unfold toInteger
  -- Each kind of value is refused, beyond every limit, or read by its own rule, which
  -- gives a number or nothing.
  split
  · exact complains_reject
  · exact complains_reject
  · exact complains_ok
  · rintro stop ⟨⟩
    exact .infinite hv
  · split
    · exact complains_ok
    · exact complains_reject
  · split
    · exact complains_ok
    · exact complains_reject
  · split
    · exact complains_ok
    · exact complains_reject
  · split
    · split
      · exact complains_ok
      · exact complains_reject
    · exact complains_reject
  · exact complains_reject
  · exact complains_reject

/-- A look that may complain, before what comes next. -/
theorem Complains.guarded {c : Prop} [Decidable c] {complaint : Complaint}
    {x : Unit → Except Stop α} (hx : Complains args (x ())) :
    Complains args (if c then reject given field complaint >>= x else x ()) := by
  split
  · exact complains_reject.bind fun _ => hx
  · exact hx

theorem complains_integer {least most : Option Int} (hv : v ∈ args) :
    Complains args (integer v field least most) := by
  refine (complains_toInteger hv).bind fun n => ?_
  cases least <;> cases most
  · exact complains_ok
  · exact .guarded complains_ok
  · exact .guarded complains_ok
  · exact .guarded (.guarded complains_ok)

theorem complains_amount (hv : v ∈ args) : Complains args (amount v field) := complains_integer hv

theorem complains_total {current delta : Int} : Complains args (total current delta field) := by
  unfold total
  split
  · exact complains_reject
  · exact complains_ok

theorem complains_text {most : Option Int} : Complains args (text v field most) := by
  have hraw : ∀ raw : String, Complains args (boundedText (.text raw) field 1 most) := by
    intro raw
    unfold boundedText
    dsimp only
    refine .guarded ?_
    cases most with
    | none => exact complains_ok
    | some high => exact .guarded complains_ok
  unfold text
  cases v with
  | text raw => exact hraw raw
  | torn raw => exact hraw raw
  | _ => exact complains_reject

/-- A text that may be left out is checked as one that is not. -/
theorem only_optionalText {P : Stop → Prop} (h : ∀ most, Except.Only P (text v field most))
    {most : Option Int} : Except.Only P (optionalText v field most) := by
  have hmap : Except.Only P ((text v field most).map some) := by
    intro stop hstop
    cases htext : text v field most with
    | error e =>
      rw [htext] at hstop
      cases hstop
      exact h most stop htext
    | ok s =>
      rw [htext] at hstop
      cases hstop
  unfold optionalText
  split
  · exact .ok
  · split
    · exact .ok
    · exact hmap
  · split
    · exact .ok
    · exact hmap
  · exact hmap

theorem complains_email : Complains args (email v field) := by
  refine complains_text.bind fun s => ?_
  split
  · exact complains_ok
  · exact complains_reject

end Input

/-! ### Stops that are brought in -/

namespace Session

/-- A stop that does not come of the work: the storage may say it to one of the next
statements, or the moment may break down with it. -/
def Brings (m : Moment) (d : Desk) (stop : Stop) : Prop :=
  some stop ∈ d.trouble ∨ ∃ site, m.fault = some (site, stop)

/-- Work that does not, of its own, stop with a failure of a kind at a desk. -/
def Avoids (P : Failure → Prop) (m : Moment) {α : Type} (x : Session α) (d : Desk) : Prop :=
  match x d with
  | .ok _ d' => d'.trouble <:+ d.trouble
  | .error stop _ => ∀ f, stop = .failure f → P f → Brings m d stop

variable {α β : Type} {P : Failure → Prop} {m : Moment} {d d' : Desk}

theorem Avoids.suffix {x : Session α} {a : α} (hx : Avoids P m x d) (h : x d = .ok a d') :
    d'.trouble <:+ d.trouble := by
  unfold Avoids at hx
  rw [h] at hx
  exact hx

theorem Avoids.brings {x : Session α} {f : Failure} (hx : Avoids P m x d)
    (h : x d = .error (.failure f) d') (hf : P f) : Brings m d (.failure f) := by
  unfold Avoids at hx
  rw [h] at hx
  exact hx f rfl hf

/-- What a later desk brings in, the earlier one does. -/
theorem Brings.of_suffix {stop : Stop} (h : Brings m d' stop) (hd : d'.trouble <:+ d.trouble) :
    Brings m d stop := by
  rcases h with h | h
  · exact .inl (hd.subset h)
  · exact .inr h

theorem avoids_lift {x : Except Stop α} (hx : ∀ f, x = .error (.failure f) → ¬P f) :
    Avoids P m (liftM x) d := by
  cases x with
  | ok a => exact List.suffix_refl _
  | error stop =>
    rintro f rfl hf
    exact absurd hf (hx f rfl)

theorem avoids_pure {a : α} : Avoids P m (pure a) d := List.suffix_refl d.trouble

theorem avoids_send : Avoids P m send d := by
  unfold Avoids send
  split
  · rename_i heq
    split at heq
    · cases heq
      exact List.suffix_refl _
    · rename_i rest htrouble
      cases heq
      rw [htrouble]
      exact List.suffix_cons none rest
    · cases heq
  · rename_i stop _ heq
    split at heq
    · cases heq
    · cases heq
    · rename_i rest htrouble
      cases heq
      intro f _ _
      exact .inl (htrouble ▸ List.mem_cons_self)

/-- Work in a row avoids what its parts do, each at the desk it finds. -/
theorem Avoids.bind {x : Session α} {f : α → Session β} (hx : Avoids P m x d)
    (hf : ∀ a d', x d = .ok a d' → Avoids P m (f a) d') : Avoids P m (x >>= f) d := by
  show (match EStateM.bind x f d with
    | .ok _ d' => d'.trouble <:+ d.trouble
    | .error stop _ => ∀ f, stop = .failure f → P f → Brings m d stop)
  unfold EStateM.bind
  cases h : x d with
  | error stop d₁ =>
    rintro g rfl hg
    exact hx.brings h hg
  | ok a d₁ =>
    have hsuffix := hx.suffix h
    have hrest := hf a d₁ h
    unfold Avoids at hrest
    dsimp only
    -- What the second part meets was there from the beginning.
    cases hb : f a d₁ with
    | ok b d₂ =>
      rw [hb] at hrest
      exact hrest.trans hsuffix
    | error stop d₂ =>
      rw [hb] at hrest
      intro g hstop hg
      exact (hrest g hstop hg).of_suffix hsuffix

theorem Avoids.after {x : Except Stop α} {f : α → Session β}
    (hx : ∀ g, x = .error (.failure g) → ¬P g) (hf : ∀ a, x = .ok a → Avoids P m (f a) d) :
    Avoids P m ((liftM x : Session α) >>= f) d := by
  refine (avoids_lift hx).bind fun a d' h => ?_
  obtain ⟨ha, rfl⟩ := lift_eq_ok.1 h
  exact hf a ha

theorem avoids_store : Avoids P m store d :=
  avoids_send.bind fun _ d' _ => List.suffix_refl d'.trouble

/-- A value without bytes is no failure of the work. -/
theorem avoids_storeFor {given : Value} : Avoids P m (storeFor given) d := by
  refine avoids_store.bind fun s d' _ => .after (fun f h => ?_) fun _ _ => avoids_pure
  cases given <;> cases h

theorem avoids_run {statement : Store → Except Stop Store}
    (h : ∀ f, statement d.store = .error (.failure f) → ¬P f) :
    Avoids P m (run statement) d := by
  refine avoids_store.bind fun s d' hstore => ?_
  obtain ⟨rfl, -⟩ := store_eq_ok hstore
  exact .after h fun _ _ => List.suffix_refl d'.trouble

theorem avoids_flush {site : Site} : Avoids P m (flush m site) d := by
  refine avoids_send.bind fun _ d' _ => ?_
  cases hfault : m.fault with
  | none => exact List.suffix_refl d'.trouble
  | some fault =>
    obtain ⟨place, stop⟩ := fault
    dsimp only
    by_cases hplace : place = site
    · rw [if_pos hplace]
      intro f _ _
      exact .inr ⟨place, hfault⟩
    · rw [if_neg hplace]
      exact List.suffix_refl d'.trouble

/-- Storage that cannot be reached is no failure of the work. -/
theorem Avoids.transaction {work : Session α} (h : Avoids P m work d) :
    Avoids P m (transaction work) d := by
  have hcommitting : Avoids P m (committing work) d :=
    h.bind fun _ _ _ => avoids_send.bind fun _ d' _ => List.suffix_refl d'.trouble
  unfold Avoids Session.transaction
  cases hopen : d.checkTables with
  | error stop =>
    rintro f rfl -
    unfold Desk.checkTables Desk.checkLink at hopen
    cases hlink : d.link <;> cases htables : d.tables <;> rw [hlink, htables] at hopen <;>
      cases hopen
  | ok _ =>
    dsimp only
    unfold Avoids at hcommitting
    split
    · rename_i heq
      split at heq
      · rename_i hdone
        rw [hdone] at hcommitting
        cases heq
        exact hcommitting
      · cases heq
    · rename_i heq
      split at heq
      · cases heq
      · rename_i hdone
        rw [hdone] at hcommitting
        cases heq
        exact hcommitting

/-- Work that is reported avoids what it avoided, if that is not how it is reported. -/
theorem Avoids.reportingAs {work : Session α} {g : Failure} (h : Avoids P m work d) (hg : ¬P g) :
    Avoids P m (reportingAs g work) d := by
  unfold Avoids at h
  unfold Avoids Session.reportingAs reporting
  cases hwork : work d with
  | ok a d' =>
    rw [hwork] at h
    exact h
  | error stop d' =>
    rw [hwork] at h
    cases stop with
    | integrity =>
      rintro f ⟨⟩ hf
      exact absurd hf hg
    | storage =>
      rintro f ⟨⟩ hf
      exact absurd hf hg
    | _ => exact h

end Session

end Guildhall
