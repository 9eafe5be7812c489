/-
Guildhall/Proofs/View.lean

Work that looks at a part of the store only.  A view takes rows away from a store.
Work is within a view if those rows make no difference to it: on what the view shows
of a desk it comes to the same end, and it leaves what the view shows of the desk that
it would have left (`Session.Within`):

    x (d.seen v) = (x d).seen v

Reading is within a view if what is made of the store is; a statement is if it can be
carried out on the view; and work in a row is if its parts are, each at the desk that
it finds.

The view of this development is `Store.rowsOf`: the rows of some of the users, and all
items and announcements.
-/
import Guildhall.Proofs.Identity
import Guildhall.Proofs.Slots

namespace Guildhall

/-! ### Views of a desk -/

/-- What a view shows of a desk. -/
def Desk.seen (d : Desk) (v : Store → Store) : Desk := { d with store := v d.store }

namespace Session

variable {α β : Type} {v : Store → Store} {m : Moment} {d d' : Desk} {a : α}

/-- An end of some work, with what a view shows of the desk that is left. -/
def seen (v : Store → Store) : EStateM.Result Stop Desk α → EStateM.Result Stop Desk α
  | .ok a d => .ok a (d.seen v)
  | .error stop d => .error stop (d.seen v)

/-- Work to which what a view hides of a desk makes no difference. -/
def Within (v : Store → Store) (x : Session α) (d : Desk) : Prop :=
  x (d.seen v) = seen v (x d)

theorem within_pure : Within v (pure a) d := rfl

theorem within_fail {f : Failure} : Within v (fail f : Session α) d := rfl

theorem within_lift {x : Except Stop α} : Within v (liftM x) d := by
  cases x <;> rfl

theorem within_send : Within v send d := by
  obtain ⟨store, supply, link, tables, trouble⟩ := d
  match trouble with
  | [] => rfl
  | none :: rest => rfl
  | some stop :: rest => rfl

/-- Work in a row is within a view if its parts are, each at the desk that it finds. -/
theorem Within.bind {x : Session α} {f : α → Session β} (hx : Within v x d)
    (hf : ∀ a d', x d = .ok a d' → Within v (f a) d') : Within v (x >>= f) d := by
  show EStateM.bind x f (d.seen v) = seen v (EStateM.bind x f d)
  unfold Within at hx
  unfold EStateM.bind
  rw [hx]
  cases h : x d with
  | ok a d' => exact hf a d' h
  | error stop d' => rfl

/-- A check looks at no store. -/
theorem Within.after {x : Except Stop α} {f : α → Session β}
    (hf : ∀ a, x = .ok a → Within v (f a) d) : Within v ((liftM x : Session α) >>= f) d := by
  refine within_lift.bind fun a d' h => ?_
  obtain ⟨ha, rfl⟩ := lift_eq_ok.1 h
  exact hf a ha

/-- Work behind a guard. -/
theorem Within.guarded {c : Prop} [Decidable c] {f : Failure} {x : Unit → Session α}
    (hx : ¬c → Within v (x ()) d) : Within v (if c then fail f >>= x else x ()) d := by
  by_cases hc : c
  · rw [if_pos hc]
    rfl
  · rw [if_neg hc]
    exact hx hc

/-- Work that reads the store, and to which the view shows all that it uses. -/
theorem Within.reading {f : Store → Session β} (hview : f (v d.store) = f d.store)
    (hf : ∀ d', d'.store = d.store → Within v (f d.store) d') :
    Within v (store >>= f) d := by
  have hsend : Within v send d := within_send
  show EStateM.bind (EStateM.bind send fun _ => _) f (d.seen v) =
    seen v (EStateM.bind (EStateM.bind send fun _ => _) f d)
  unfold Within at hsend
  unfold EStateM.bind
  rw [hsend]
  cases h : send d with
  | error stop d' => rfl
  | ok _ d' =>
    -- What is read on the view is what the view shows.
    have hstore : d'.store = d.store := (send_eq_ok h).1.store
    show f (v d'.store) (d'.seen v) = seen v (f d'.store d')
    rw [hstore, hview]
    exact hf d' hstore

/-- A lookup reads the store too, and looks at no store to see whether its key has bytes. -/
theorem Within.readingFor {given : Value} {f : Store → Session β}
    (hview : f (v d.store) = f d.store)
    (hf : ∀ d', d'.store = d.store → Within v (f d.store) d') :
    Within v (storeFor given >>= f) d := by
  unfold storeFor
  rw [bind_assoc]
  refine .reading ?_ fun d' hd' => ?_
  · rw [bind_assoc, bind_assoc, pure_bind, pure_bind, hview]
  · rw [bind_assoc]
    refine .after fun _ _ => ?_
    rw [pure_bind]
    exact hf d' hd'

/-- A statement that can be carried out on the view. -/
theorem within_run {statement : Store → Except Stop Store}
    (h : statement (v d.store) = (statement d.store).map v) : Within v (run statement) d := by
  have hsend : Within v send d := within_send
  unfold Within at hsend
  show EStateM.bind (EStateM.bind send fun _ => _) _ (d.seen v) =
    seen v (EStateM.bind (EStateM.bind send fun _ => _) _ d)
  unfold EStateM.bind
  rw [hsend]
  cases hd' : send d with
  | error stop d' => rfl
  | ok _ d' =>
    rw [← (send_eq_ok hd').1.store] at h
    show (liftM (statement (v d'.store)) >>= _ : Session Unit) (d'.seen v) =
      seen v ((liftM (statement d'.store) >>= _ : Session Unit) d')
    rw [h]
    cases statement d'.store <;> rfl

/-- A change for a key, which is looked at first. -/
theorem within_runFor {given : Value} {change : Store → Store}
    (h : change (v d.store) = v (change d.store)) :
    Within v (run fun s => (checkBytes given).map fun _ => change s) d := by
  refine within_run ?_
  rw [h]
  cases checkBytes given <;> rfl

theorem within_flush {site : Site} : Within v (flush m site) d := by
  refine within_send.bind fun _ d' _ => ?_
  cases m.fault with
  | none => rfl
  | some fault =>
    obtain ⟨place, stop⟩ := fault
    dsimp only
    split <;> rfl

/-- A statement that is written at once, and a result. -/
theorem within_written {statement : Store → Except Stop Store} {site : Site} {a : α}
    (h : statement (v d.store) = (statement d.store).map v) :
    Within v (run statement >>= fun _ => flush m site >>= fun _ => pure a) d :=
  (within_run h).bind fun _ _ _ => within_flush.bind fun _ _ _ => within_pure

theorem within_takeRowId : Within v takeRowId d := rfl

theorem within_takeTokenId : Within v takeTokenId d := rfl

/-- A unit of work, which gives back the store of before if it stops. -/
theorem Within.transaction {work : Session α} (h : Within v work d) :
    Within v (transaction work) d := by
  have hcommitting : Within v (committing work) d :=
    h.bind fun _ d' _ => within_send.bind fun _ _ _ => rfl
  have hopen : (d.seen v).checkTables = d.checkTables := rfl
  unfold Within at hcommitting
  unfold Within Session.transaction
  rw [hopen]
  cases d.checkTables with
  | error stop => rfl
  | ok _ =>
    dsimp only
    rw [hcommitting]
    cases committing work d <;> rfl

theorem Within.reporting {f g : Failure} {work : Session α} (h : Within v work d) :
    Within v (reporting f g work) d := by
  unfold Within at h
  unfold Within Session.reporting
  rw [h]
  cases work d with
  | ok a d' => rfl
  | error stop d' => cases stop <;> rfl

end Session

/-! ### The rows of some users -/

namespace Store

variable {p : String → Bool} {s : Store} {k i : String}

/-- What is looked for among rows that pass a test is found among those. -/
theorem find?_filter_of_imp {α : Type} {p q : α → Bool} (l : List α)
    (h : ∀ a, q a = true → p a = true) : (l.filter p).find? q = l.find? q := by
  rw [List.find?_filter]
  congr 1
  funext a
  cases hq : q a with
  | false => simp
  | true => simp [h a hq]

/-- What is kept of rows that pass a test is kept of all rows. -/
theorem filter_filter_of_imp {α : Type} {p q : α → Bool} (l : List α)
    (h : ∀ a, q a = true → p a = true) : (l.filter p).filter q = l.filter q := by
  rw [List.filter_filter]
  congr 1
  funext a
  cases hq : q a with
  | false => simp
  | true => simp [h a hq]

theorem user?_rowsOf (hk : p k = true) : (s.rowsOf p).user? k = s.user? k :=
  find?_filter_of_imp s.users fun _ hu => (beq_iff_eq.1 hu) ▸ hk

theorem possession?_rowsOf (hk : p k = true) :
    (s.rowsOf p).possession? k i = s.possession? k i :=
  find?_filter_of_imp s.possessions fun _ hq =>
    (beq_iff_eq.1 (Bool.and_eq_true_iff.1 hq).1) ▸ hk

theorem possessionsOf_rowsOf (hk : p k = true) :
    (s.rowsOf p).possessionsOf k = s.possessionsOf k := by
  unfold possessionsOf rowsOf
  rw [filter_filter_of_imp s.possessions fun _ hq => (beq_iff_eq.1 hq) ▸ hk]

theorem possessionsIn_rowsOf (hk : p k = true) (slot : Int) :
    (s.rowsOf p).possessionsIn k slot = s.possessionsIn k slot := by
  unfold possessionsIn
  rw [possessionsOf_rowsOf hk]
  rfl

/-! ### Changes of rows that are shown -/

theorem deleteUser_rowsOf : (s.rowsOf p).deleteUser k = (s.deleteUser k).rowsOf p := by
  unfold deleteUser rowsOf
  simp only [List.filter_filter, Bool.and_comm]

theorem replaceUser_rowsOf {u : User}
    (hunique : ∀ v ∈ s.users, v.id ≠ u.id → v.name ≠ u.name ∧ v.email ≠ u.email) :
    (s.rowsOf p).replaceUser u.id u = (s.replaceUser u.id u).map (rowsOf p) := by
  have hothers : userIsUnique (s.users.filter (·.id != u.id)) u = true := by
    rw [userIsUnique_iff]
    intro v hv
    obtain ⟨hv, hne⟩ := List.mem_filter.1 hv
    exact ⟨bne_iff_ne.1 hne, hunique v hv (bne_iff_ne.1 hne)⟩
  have hshown : userIsUnique ((s.rowsOf p).users.filter (·.id != u.id)) u = true := by
    rw [userIsUnique_iff] at hothers ⊢
    intro v hv
    obtain ⟨hv, hne⟩ := List.mem_filter.1 hv
    exact hothers v (List.mem_filter.2 ⟨(List.mem_filter.1 hv).1, hne⟩)
  unfold replaceUser
  rw [hothers, hshown, beq_self_eq_true, Bool.true_or, Bool.true_or]
  cases checkFits [u.coins, u.gems] with
  | error stop => rfl
  | ok _ =>
    cases checkConstraint (true && balancesHold u && true) with
    | error stop => rfl
    | ok _ =>
      -- The row that is put in has the id of the one that goes, so the test says of both
      -- the same.
      have htest : ∀ v ∈ s.users, p (if v.id == u.id then u else v).id = p v.id := by
        intro v _
        split
        · rename_i hid
          rw [beq_iff_eq.1 hid]
        · rfl
      show Except.ok _ = Except.ok _
      unfold rowsOf
      rw [List.filter_map, Function.comp_def, List.filter_congr htest]

/-- A user is written on the view as on the whole store, if no other row has the name or
the email address. -/
theorem writeUser_rowsOf {now : Instant} {u old : User} (hk : p u.id = true)
    (hnames : (s.users.map (·.name)).Nodup) (hemails : (s.users.map (·.email)).Nodup)
    (hold : old ∈ s.users) (hidentity : u.identity = old.identity) :
    (s.rowsOf p).writeUser now u = (s.writeUser now u).map (rowsOf p) := by
  have hid : u.id = old.id := congrArg Identity.id hidentity
  have hname : u.name = old.name := congrArg Identity.name hidentity
  have hemail : u.email = old.email := congrArg Identity.email hidentity
  have hunique : ∀ v ∈ s.users, v.id ≠ u.id → v.name ≠ u.name ∧ v.email ≠ u.email := by
    intro v hv hne
    refine ⟨fun h => hne ?_, fun h => hne ?_⟩
    · rw [Rows.eq_of_key hnames hv hold (h.trans hname), hid]
    · rw [Rows.eq_of_key hemails hv hold (h.trans hemail), hid]
  unfold writeUser
  rw [user?_rowsOf hk]
  cases s.user? u.id with
  | none => rfl
  | some before =>
    dsimp only
    split
    · rfl
    · exact replaceUser_rowsOf (u := { u with updatedAt := now }) hunique

theorem insertPossession_rowsOf {q : Possession} (hk : p q.userId = true) :
    (s.rowsOf p).insertPossession q = (s.insertPossession q).map (rowsOf p) := by
  have hrefers : (s.rowsOf p).possessionRefers q = s.possessionRefers q := by
    unfold possessionRefers
    rw [user?_rowsOf hk]
    rfl
  unfold insertPossession
  rw [possession?_rowsOf hk, hrefers]
  cases checkConstraint ((s.possession? q.userId q.itemId).isNone && s.possessionRefers q) with
  | error stop => rfl
  | ok _ =>
    show Except.ok _ = Except.ok _
    unfold rowsOf
    rw [List.filter_append, List.filter_cons_of_pos (by exact hk), List.filter_nil]

theorem wear_rowsOf {slot : List Possession} {target : Possession} :
    Wardrobe.wear (s.rowsOf p) slot target = (Wardrobe.wear s slot target).rowsOf p := by
  rw [Wardrobe.wear_eq, Wardrobe.wear_eq]
  unfold rowsOf
  rw [List.filter_map]
  rfl

theorem deletePossession_rowsOf {u : String} :
    (s.rowsOf p).deletePossession u i = (s.deletePossession u i).rowsOf p := by
  unfold deletePossession rowsOf
  simp only [List.filter_filter, Bool.and_comm]

/-- Statistics are written on the view as on the whole store, if they stay with their
user. -/
theorem writeStats_rowsOf {row : Stats}
    (hrow : ∀ old ∈ s.stats, old.id = row.id → old.userId = row.userId) :
    (s.rowsOf p).writeStats row = (s.writeStats row).map (rowsOf p) := by
  have htest : ∀ old ∈ s.stats,
      p (if old.id == row.id then row else old).userId = p old.userId := by
    intro old hold
    split
    · rename_i hid
      rw [hrow old hold (beq_iff_eq.1 hid)]
    · rfl
  unfold writeStats
  cases checkFits (statsNumbers row) with
  | error stop => rfl
  | ok _ =>
    show Except.ok _ = Except.ok _
    unfold rowsOf
    rw [List.filter_map, Function.comp_def, List.filter_congr htest]

/-! ### Changes of rows that are hidden -/

theorem rowsOf_deleteUser (hk : p k = false) : (s.deleteUser k).rowsOf p = s.rowsOf p := by
  -- What passes the test is not what is removed.
  have htest : ∀ id : String, (p id && id != k) = p id := by
    intro id
    by_cases hid : id = k
    · rw [hid, hk, Bool.false_and]
    · rw [bne_iff_ne.2 hid, Bool.and_true]
  unfold deleteUser rowsOf
  simp only [List.filter_filter, htest]

theorem rowsOf_writeUser {s' : Store} {now : Instant} {u : User} (hk : p u.id = false)
    (h : s.writeUser now u = .ok s') : s'.rowsOf p = s.rowsOf p := by
  unfold writeUser at h
  split at h
  · cases h
    rfl
  · split at h
    · cases h
      rfl
    · obtain ⟨-, -, -, rfl⟩ := replaceUser_eq_ok (u := { u with updatedAt := now }).1 h
      -- Neither the row that goes nor the one that comes passes the test.
      have husers : (Rows.put (·.id) { u with updatedAt := now } s.users).filter (p ·.id) =
          s.users.filter (p ·.id) := by
        apply Rows.filter_map_eq
        · intro v _
          split
          · rename_i hid
            exact congrArg p hid.symm
          · rfl
        · intro v _ hv
          refine if_neg fun (hid : v.id = u.id) => ?_
          rw [hid, hk] at hv
          cases hv
      unfold rowsOf
      rw [husers]

theorem rowsOf_insertPossession {s' : Store} {q : Possession} (hk : p q.userId = false)
    (h : s.insertPossession q = .ok s') : s'.rowsOf p = s.rowsOf p := by
  obtain ⟨-, -, rfl⟩ := insertPossession_eq_ok.1 h
  unfold rowsOf
  rw [List.filter_append, List.filter_cons_of_neg (by rw [hk]; exact Bool.false_ne_true),
    List.filter_nil, List.append_nil]

theorem rowsOf_deletePossession (hk : p k = false) :
    (s.deletePossession k i).rowsOf p = s.rowsOf p := by
  have htest : ∀ q : Possession,
      (p q.userId && !(q.userId == k && q.itemId == i)) = p q.userId := by
    intro q
    by_cases hq : q.userId = k
    · rw [hq, hk, Bool.false_and]
    · rw [beq_false_of_ne hq, Bool.false_and, Bool.not_false, Bool.and_true]
  unfold deletePossession rowsOf
  simp only [List.filter_filter, htest]

theorem rowsOf_writeStats {s' : Store} {row : Stats} (hk : p row.userId = false)
    (hrow : ∀ old ∈ s.stats, old.id = row.id → old.userId = row.userId)
    (h : s.writeStats row = .ok s') : s'.rowsOf p = s.rowsOf p := by
  obtain ⟨-, rfl⟩ := writeStats_eq_ok.1 h
  have hstats : (Rows.put (·.id) row s.stats).filter (p ·.userId) =
      s.stats.filter (p ·.userId) := by
    apply Rows.filter_map_eq
    · intro old hold
      split
      · rename_i hid
        rw [hrow old hold hid]
      · rfl
    · intro old hold hshown
      refine if_neg fun (hid : old.id = row.id) => ?_
      rw [hrow old hold hid, hk] at hshown
      cases hshown
  unfold rowsOf
  rw [hstats]

theorem rowsOf_wear {slot : List Possession} {target : Possession}
    (hslot : ∀ q ∈ slot, p q.userId = false) (htarget : p target.userId = false) :
    (Wardrobe.wear s slot target).rowsOf p = s.rowsOf p := by
  -- A possession that passes the test is not put on and was not worn in the slot.
  have hfixed : ∀ q : Possession, p q.userId = true →
      q.flagged (Wardrobe.wornAfter slot target q) = q := by
    intro q hq
    have hother : ∀ r : Possession, p r.userId = false → r.key ≠ q.key := by
      intro r hr hkey
      have huser : r.userId = q.userId := congrArg Prod.fst hkey
      rw [huser, hq] at hr
      cases hr
    unfold Wardrobe.wornAfter
    rw [if_neg (hother target htarget).symm, if_neg]
    · exact Possession.flagged_equipped q
    · rintro ⟨r, hr, -, hkey⟩
      exact hother r (hslot r hr) hkey
  have hpossessions : (s.possessions.map fun q =>
      q.flagged (Wardrobe.wornAfter slot target q)).filter (p ·.userId) =
        s.possessions.filter (p ·.userId) :=
    Rows.filter_map_eq (fun _ _ => rfl) fun q _ hq => hfixed q hq
  rw [Wardrobe.wear_eq]
  unfold rowsOf
  rw [hpossessions]

end Store

end Guildhall
