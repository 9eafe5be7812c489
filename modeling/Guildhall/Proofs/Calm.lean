/-
Guildhall/Proofs/Calm.lean

How work stops where the storage is there.  A desk is calm if its storage can be
reached and the tables exist; the storage may still turn a statement down or break
down at one, but it says so as a storage does (`Desk.Calm`, `Stop.IsStorage`).

Work on a calm desk is taken apart by how it stops: `Stops P x d` says that `x` stops
at `d` in the ways `P` only, and that it leaves a calm desk otherwise.  Inside of a
unit of work the storage may stop it too; a unit of work that is reported turns that
into a failure (`Stops.reported`).
-/
import Guildhall.Proofs.Ready
import Guildhall.Proofs.Stopping

namespace Guildhall

variable {m : Moment} {d d' : Desk}

/-! ### Stops of the storage -/

/-- A stop that the storage brings about. -/
inductive Stop.IsStorage : Stop → Prop
  | storage : IsStorage .storage
  | integrity : IsStorage .integrity

/-- A number that does not fit is not refused by the storage, which it never reaches. -/
theorem Stop.not_isStorage_overflow : ¬Stop.overflow.IsStorage := nofun

/-- A desk whose storage is there. -/
structure Desk.Calm (d : Desk) : Prop where
  link : d.link = .up
  tables : d.tables = true
  trouble : ∀ stop, some stop ∈ d.trouble → stop.IsStorage

/-- A moment at which nothing breaks down but the storage. -/
def Moment.Calm (m : Moment) : Prop := ∀ site stop, m.fault = some (site, stop) → stop.IsStorage

theorem Desk.Ready.calm (hd : d.Ready) : d.Calm :=
  ⟨hd.link, hd.tables, fun stop h => by rw [hd.trouble] at h; cases h⟩

theorem Moment.calm_of_fault (h : m.fault = none) : m.Calm := by
  intro site stop hfault
  rw [h] at hfault
  cases hfault

/-- A calm desk with another store, supply or less trouble. -/
theorem Desk.Calm.of_kept (hd : d.Calm) (hlink : d'.link = d.link) (htables : d'.tables = d.tables)
    (htrouble : d'.trouble ⊆ d.trouble) : d'.Calm :=
  ⟨hlink.trans hd.link, htables.trans hd.tables, fun stop h => hd.trouble stop (htrouble h)⟩

/-! ### Statements that are turned down -/

theorem checkFits_eq_error {ns : List Int} {stop : Stop} :
    checkFits ns = .error stop ↔ stop = .overflow ∧ ∃ n ∈ ns, fits n = false := by
  unfold checkFits
  cases h : ns.all fits with
  | true =>
    rw [if_pos rfl]
    refine iff_of_false nofun ?_
    rintro ⟨-, n, hn, hfits⟩
    exact absurd (List.all_eq_true.1 h n hn) (by rw [hfits]; decide)
  | false =>
    rw [if_neg Bool.false_ne_true]
    obtain ⟨n, hn, hfits⟩ := List.all_eq_false.1 h
    constructor
    · rintro ⟨⟩
      exact ⟨rfl, n, hn, eq_false_of_ne_true hfits⟩
    · rintro ⟨rfl, -⟩
      rfl

/-- A count fits into its column. -/
theorem fits_of_bounds {n : Int} (h : 0 ≤ n) (h' : n ≤ greatestStored) : fits n = true := by
  have hleast : leastStored ≤ n := Int.le_trans (by decide) h
  simp [fits, hleast, h']

theorem fits_eq_false_iff {n : Int} (h : 0 ≤ n) : fits n = false ↔ greatestStored < n := by
  have hleast : leastStored ≤ n := Int.le_trans (by decide) h
  simp [fits, hleast]

/-- How a statement is turned down that writes some numbers: it would break a constraint,
or a column cannot hold one of them. -/
inductive TurnedDown (ns : List Int) : Stop → Prop
  | constraint : TurnedDown ns .integrity
  | overflow {n : Int} (hn : n ∈ ns) (hfits : fits n = false) : TurnedDown ns .overflow

/-- Only the storage turns a statement down whose numbers its columns can hold. -/
theorem TurnedDown.isStorage {ns : List Int} {stop : Stop} (h : TurnedDown ns stop)
    (hns : ∀ n ∈ ns, fits n = true) : stop.IsStorage := by
  cases h with
  | constraint => exact .integrity
  | overflow hn hfits => exact absurd (hns _ hn) (by rw [hfits]; decide)

theorem turnedDown_checkFits {ns : List Int} : Except.Only (TurnedDown ns) (checkFits ns) := by
  intro stop h
  obtain ⟨rfl, n, hn, hfits⟩ := checkFits_eq_error.1 h
  exact .overflow hn hfits

theorem turnedDown_checkConstraint {ns : List Int} {holds : Bool} :
    Except.Only (TurnedDown ns) (checkConstraint holds) := by
  cases holds with
  | true => exact .ok
  | false => exact .error .constraint

namespace Store

variable {s : Store} {now : Instant}

theorem turnedDown_insertUser {u : User} :
    Except.Only (TurnedDown [u.coins, u.gems]) (s.insertUser u) :=
  turnedDown_checkFits.bind fun _ _ => turnedDown_checkConstraint.bind fun _ _ => .ok

theorem turnedDown_writeUser {u : User} :
    Except.Only (TurnedDown [u.coins, u.gems]) (s.writeUser now u) := by
  unfold writeUser
  split
  · exact .ok
  · split
    · exact .ok
    · exact turnedDown_checkFits.bind fun _ _ => turnedDown_checkConstraint.bind fun _ _ => .ok

theorem turnedDown_insertItem {i : Item} :
    Except.Only (TurnedDown (itemNumbers i)) (s.insertItem i) :=
  turnedDown_checkFits.bind fun _ _ => turnedDown_checkConstraint.bind fun _ _ => .ok

theorem turnedDown_writeItem {i : Item} :
    Except.Only (TurnedDown (itemNumbers i)) (s.writeItem now i) := by
  unfold writeItem
  split
  · exact .ok
  · split
    · exact .ok
    · exact turnedDown_checkFits.bind fun _ _ => turnedDown_checkConstraint.bind fun _ _ => .ok

theorem turnedDown_insertPossession {p : Possession} :
    Except.Only (TurnedDown []) (s.insertPossession p) :=
  turnedDown_checkConstraint.bind fun _ _ => .ok

theorem turnedDown_insertStats {row : Stats} :
    Except.Only (TurnedDown (statsNumbers row)) (s.insertStats row) :=
  turnedDown_checkFits.bind fun _ _ => turnedDown_checkConstraint.bind fun _ _ => .ok

theorem turnedDown_writeStats {row : Stats} :
    Except.Only (TurnedDown (statsNumbers row)) (s.writeStats row) :=
  turnedDown_checkFits.bind fun _ _ => .ok

theorem turnedDown_insertNews {n : News} : Except.Only (TurnedDown []) (s.insertNews n) :=
  turnedDown_checkConstraint.bind fun _ _ => .ok

theorem turnedDown_writeNews {n : News} : Except.Only (TurnedDown []) (s.writeNews n) :=
  turnedDown_checkConstraint.bind fun _ _ => .ok

end Store

/-! ### Work that stops in some ways only -/

namespace Session

variable {α β : Type} {P : Stop → Prop} {a : α}

/-- Work that stops in some ways only, and leaves a calm desk if it does not. -/
def Stops (P : Stop → Prop) (x : Session α) (d : Desk) : Prop :=
  match x d with
  | .ok _ d' => d'.Calm
  | .error stop _ => P stop

/-- The ways in which work stops inside of a unit of work: those of the storage too. -/
def Inside (P : Stop → Prop) (stop : Stop) : Prop := stop.IsStorage ∨ P stop

theorem inside {x : Except Stop α} (hx : Except.Only P x) : Except.Only (Inside P) x :=
  fun stop h => .inr (hx stop h)

/-- A statement whose numbers fit is turned down by the storage only. -/
theorem inside_of_fits {ns : List Int} {x : Except Stop α} (hx : Except.Only (TurnedDown ns) x)
    (hns : ∀ n ∈ ns, fits n = true) : Except.Only (Inside P) x :=
  fun stop h => .inl ((hx stop h).isStorage hns)

/-- A statement without numbers is turned down by the storage only. -/
theorem inside_of_constraint {x : Except Stop α} (hx : Except.Only (TurnedDown []) x) :
    Except.Only (Inside P) x := inside_of_fits hx (List.forall_mem_nil _)

theorem Stops.calm {x : Session α} (hx : Stops P x d) (h : x d = .ok a d') : d'.Calm := by
  unfold Stops at hx
  rw [h] at hx
  exact hx

theorem Stops.stop {x : Session α} {stop : Stop} (hx : Stops P x d)
    (h : x d = .error stop d') : P stop := by
  unfold Stops at hx
  rw [h] at hx
  exact hx

theorem stops_pure (hd : d.Calm) : Stops P (pure a) d := hd

theorem stops_fail {f : Failure} (h : P (.failure f)) : Stops P (fail f : Session α) d := h

theorem stops_lift {x : Except Stop α} (hd : d.Calm) (hx : Except.Only P x) :
    Stops P (liftM x) d := by
  cases x with
  | ok a => exact hd
  | error stop => exact hx stop rfl

/-- Work in a row stops as one of its parts, each at the desk that it finds. -/
theorem Stops.bind {x : Session α} {f : α → Session β} (hx : Stops P x d)
    (hf : ∀ a d', x d = .ok a d' → d'.Calm → Stops P (f a) d') : Stops P (x >>= f) d := by
  show match EStateM.bind x f d with
    | .ok _ d' => d'.Calm
    | .error stop _ => P stop
  unfold EStateM.bind
  cases h : x d with
  | ok a d' => exact hf a d' h (hx.calm h)
  | error stop d' => exact hx.stop h

theorem Stops.after {x : Except Stop α} {f : α → Session β} (hd : d.Calm)
    (hx : Except.Only P x) (hf : ∀ a, x = .ok a → Stops P (f a) d) :
    Stops P ((liftM x : Session α) >>= f) d := by
  refine (stops_lift hd hx).bind fun a d' h _ => ?_
  obtain ⟨ha, rfl⟩ := lift_eq_ok.1 h
  exact hf a ha

/-- Work after a check that is known to pass. -/
theorem Stops.passed {x : Except Stop α} {f : α → Session β} (hx : x = .ok a)
    (hf : Stops P (f a) d) : Stops P ((liftM x : Session α) >>= f) d := by
  rw [hx]
  exact hf

theorem Stops.guarded {c : Prop} [Decidable c] {f : Failure} {x : Unit → Session α}
    (hc : P (.failure f)) (hx : ¬c → Stops P (x ()) d) :
    Stops P (if c then fail f >>= x else x ()) d := by
  by_cases h : c
  · rw [if_pos h]
    exact hc
  · rw [if_neg h]
    exact hx h

theorem Stops.answer {x : Session α} (hx : Stops P x d) (f : α → β) :
    Stops P (x >>= fun a => pure (f a)) d := hx.bind fun _ _ _ hd' => stops_pure hd'

theorem stops_send (hd : d.Calm) : Stops (Inside P) send d := by
  unfold Stops send
  cases htrouble : d.trouble with
  | nil => exact hd
  | cons entry rest =>
    cases entry with
    | none => exact hd.of_kept rfl rfl (htrouble ▸ List.subset_cons_self _ _)
    | some stop => exact .inl (hd.trouble stop (htrouble ▸ List.mem_cons_self))

theorem Stops.afterStore {f : Store → Session β} (hd : d.Calm)
    (hf : ∀ d', d'.Calm → d'.store = d.store → Stops (Inside P) (f d.store) d') :
    Stops (Inside P) (store >>= f) d := by
  have hstore : Stops (Inside P) store d :=
    (stops_send hd).bind fun _ _ _ hd' => hd'
  refine hstore.bind fun s d' h hd' => ?_
  obtain ⟨rfl, hkept⟩ := store_eq_ok h
  exact hf d' hd' hkept.store

/-- A lookup by a value that has bytes. -/
theorem Stops.afterStoreFor {given : Value} {f : Store → Session β} (hd : d.Calm)
    (hgiven : checkBytes given = .ok ())
    (hf : ∀ d', d'.Calm → d'.store = d.store → Stops (Inside P) (f d.store) d') :
    Stops (Inside P) (storeFor given >>= f) d := by
  unfold storeFor
  rw [bind_assoc]
  refine .afterStore hd fun d' hd' hstore => ?_
  rw [bind_assoc]
  refine .passed hgiven ?_
  rw [pure_bind]
  exact hf d' hd' hstore

/-- A statement, which may be turned down. -/
theorem stops_run {statement : Store → Except Stop Store} (hd : d.Calm)
    (hs : Except.Only (Inside P) (statement d.store)) : Stops (Inside P) (run statement) d := by
  refine .afterStore hd fun d' hd' _ => .after hd' hs fun s _ => ?_
  exact hd'.of_kept rfl rfl (List.Subset.refl _)

theorem Stops.afterRun {statement : Store → Except Stop Store} {f : Unit → Session β}
    (hd : d.Calm) (hs : Except.Only (Inside P) (statement d.store))
    (hf : ∀ d', d'.Calm → statement d.store = .ok d'.store → Stops (Inside P) (f ()) d') :
    Stops (Inside P) (run statement >>= f) d := by
  refine (stops_run hd hs).bind fun _ d' h hd' => ?_
  obtain ⟨s, hs, hkept⟩ := run_eq_ok h
  exact hf d' hd' (hs.trans (congrArg _ hkept.store.symm))

/-- The storage may break down where pending rows are sent to it. -/
theorem stops_flush {site : Site} (hd : d.Calm) (hm : m.Calm) :
    Stops (Inside P) (flush m site) d := by
  refine (stops_send hd).bind fun _ d' _ hd' => ?_
  cases hfault : m.fault with
  | none => exact hd'
  | some fault =>
    obtain ⟨place, stop⟩ := fault
    dsimp only
    split
    · exact .inl (hm place stop hfault)
    · exact hd'

theorem Stops.afterFlush {site : Site} {f : Unit → Session β} (hd : d.Calm) (hm : m.Calm)
    (hf : ∀ d', d'.Calm → d'.store = d.store → Stops (Inside P) (f ()) d') :
    Stops (Inside P) (flush m site >>= f) d :=
  (stops_flush hd hm).bind fun _ d' h hd' => hf d' hd' (flush_eq_ok h).store

theorem Stops.afterRowId {f : String → Session β} (hd : d.Calm)
    (hf : ∀ id d', d'.Calm → d'.store = d.store → Stops P (f id) d') :
    Stops P (takeRowId >>= f) d := by
  have htake : Stops P takeRowId d := hd.of_kept rfl rfl (List.Subset.refl _)
  exact htake.bind fun id d' h hd' => hf id d' hd' (takeRowId_eq_ok h).store

/-- **What the storage says inside of a unit of work that is reported is a failure.** -/
theorem Stops.reported {work : Session α} {f g : Failure} (hd : d.Calm)
    (hwork : Stops (Inside P) work d) (hf : P (.failure f)) (hg : P (.failure g)) :
    Stops P (reporting f g (transaction work)) d := by
  have hcommitting : Stops (Inside P) (committing work) d :=
    hwork.bind fun _ _ _ hd' => (stops_send hd').bind fun _ _ _ hd'' => hd''
  unfold Stops reporting Session.transaction
  rw [Desk.checkTables_of_up hd.link hd.tables]
  dsimp only
  cases hend : committing work d with
  | ok a d' => exact hcommitting.calm hend
  | error stop d' =>
    dsimp only
    rcases hcommitting.stop hend with hstorage | hstop
    · cases hstorage with
      | storage => exact hg
      | integrity => exact hf
    · cases stop with
      | storage => exact hg
      | integrity => exact hf
      | _ => exact hstop

/-! ### Work that stops -/

/-- Work that stops in a certain way. -/
def Halts (x : Session α) (d : Desk) (stop : Stop) : Prop := ∃ d', x d = .error stop d'

variable {stop : Stop}

/-- Work stops where its first part does. -/
theorem Halts.first {x : Session α} {f : α → Session β} (hx : Halts x d stop) :
    Halts (x >>= f) d stop := by
  obtain ⟨d', h⟩ := hx
  exact ⟨d', bind_stopped h⟩

theorem Halts.rest {x : Session α} {f : α → Session β} (hx : x d = .ok a d')
    (hf : Halts (f a) d' stop) : Halts (x >>= f) d stop := by
  obtain ⟨d'', h⟩ := hf
  exact ⟨d'', (bind_ready hx).trans h⟩

theorem halts_lift {x : Except Stop α} (hx : x = .error stop) : Halts (liftM x) d stop := by
  rw [hx]
  exact ⟨d, rfl⟩

theorem Halts.passed {x : Except Stop α} {f : α → Session β} (hx : x = .ok a)
    (hf : Halts (f a) d stop) : Halts ((liftM x : Session α) >>= f) d stop := by
  rw [hx]
  exact hf

theorem Halts.guarded {c : Prop} [Decidable c] {f : Failure} {x : Unit → Session α} (hc : ¬c)
    (hx : Halts (x ()) d stop) : Halts (if c then fail f >>= x else x ()) d stop := by
  rw [if_neg hc]
  exact hx

theorem Halts.afterStore {f : Store → Session β} (hd : d.Ready) (hf : Halts (f d.store) d stop) :
    Halts (store >>= f) d stop := .rest (store_ready hd) hf

theorem Halts.afterStoreFor {given : Value} {f : Store → Session β} (hd : d.Ready)
    (hgiven : checkBytes given = .ok ()) (hf : Halts (f d.store) d stop) :
    Halts (storeFor given >>= f) d stop := .rest (storeFor_ready hd hgiven) hf

/-- A lookup by a value that has no bytes is not made. -/
theorem Halts.atStoreFor {given : Value} {f : Store → Session β} (hd : d.Ready)
    (hgiven : checkBytes given = .error stop) : Halts (storeFor given >>= f) d stop :=
  Halts.first (.afterStore hd (halts_lift hgiven).first)

theorem halts_run {statement : Store → Except Stop Store} (hd : d.Ready)
    (hs : statement d.store = .error stop) : Halts (run statement) d stop :=
  .afterStore hd (halts_lift hs).first

/-- What the storage has not said is not turned into a failure. -/
theorem Halts.reported {work : Session α} {f g : Failure} (hd : d.Calm) (hwork : Halts work d stop)
    (hstop : ¬stop.IsStorage) : Halts (reporting f g (transaction work)) d stop := by
  obtain ⟨d', h⟩ := hwork.first (f := fun a => send >>= fun _ => pure a)
  refine ⟨{ d with supply := d'.supply, trouble := d'.trouble }, ?_⟩
  have hcommitting : committing work d = .error stop d' := h
  unfold reporting Session.transaction
  rw [Desk.checkTables_of_up hd.link hd.tables]
  dsimp only
  rw [hcommitting]
  cases stop with
  | storage => exact absurd .storage hstop
  | integrity => exact absurd .integrity hstop
  | _ => rfl

end Session

end Guildhall
