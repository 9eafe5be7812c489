/-
Guildhall/Proofs/Veil.lean

A view that hides passwords.  Under the veil, what is stored of the passwords of some users
is blank; everything else, the other columns of these users included, is shown
(`Store.veil`).  Statements can be carried out under the veil, and an operation that holds
no row of a user while it works does not notice it:

    x (d.seen (Store.veil p)) = (x d).seen (Store.veil p)

A row of a user that is held comes from the store, password included.  When it is written
again, the store compares it with the row that is there; so it matters that this is the
same row (`Store.KeepsPassword`), whichever way it was found.

Main statements: `Store.writeUser_veil` and `Store.keepsPassword_of_userByKey?`.
-/
import Guildhall.Proofs.View

namespace Guildhall

/-! ### Passwords out of sight -/

/-- A user without what is kept of the password, if the id passes a test. -/
def User.veil (p : String → Bool) (u : User) : User :=
  { u with password := if p u.id then "" else u.password }

/-- Users who are the same but for the passwords. -/
theorem User.exists_password {p : String → Bool} {u u' : User} (h : u.veil p = u'.veil p) :
    ∃ password, u' = { u with password } := by
  refine ⟨u'.password, ?_⟩
  obtain ⟨id, name, email, password, isAdmin, coins, gems, createdAt, updatedAt⟩ := u
  obtain ⟨rfl, rfl, rfl, -, rfl, rfl, rfl, rfl, rfl⟩ := User.mk.inj h
  rfl

/-- A user is what the veil shows, and the password. -/
theorem User.eq_of_veil {p : String → Bool} {u u' : User} (h : u.veil p = u'.veil p)
    (hpassword : u.password = u'.password) : u = u' := by
  obtain ⟨password, rfl⟩ := User.exists_password h
  obtain rfl : u.password = password := hpassword
  rfl

namespace Store

/-- A store without what is kept of the passwords of some users. -/
def veil (p : String → Bool) (s : Store) : Store := { s with users := s.users.map (User.veil p) }

variable {p : String → Bool} {s : Store} {k i : String}

/-! ### Finding rows under the veil -/

@[simp] theorem users_veil : (s.veil p).users = s.users.map (User.veil p) := rfl

@[simp] theorem items_veil : (s.veil p).items = s.items := rfl

@[simp] theorem possessions_veil : (s.veil p).possessions = s.possessions := rfl

@[simp] theorem stats_veil : (s.veil p).stats = s.stats := rfl

@[simp] theorem news_veil : (s.veil p).news = s.news := rfl

@[simp] theorem item?_veil : (s.veil p).item? i = s.item? i := rfl

@[simp] theorem possession?_veil : (s.veil p).possession? k i = s.possession? k i := rfl

/-- A test that is not about passwords finds the same user. -/
theorem find?_veil {q : User → Bool} (hq : ∀ u, q (u.veil p) = q u) :
    (s.veil p).users.find? q = (s.users.find? q).map (User.veil p) := by
  rw [users_veil, List.find?_map, show q ∘ User.veil p = q from funext hq]

@[simp] theorem user?_veil : (s.veil p).user? k = (s.user? k).map (User.veil p) :=
  find?_veil fun _ => rfl

theorem userByKey?_veil : (s.veil p).userByKey? k = (s.userByKey? k).map (User.veil p) := by
  unfold userByKey?
  rw [find?_veil fun _ => rfl, find?_veil fun _ => rfl, find?_veil fun _ => rfl]
  cases s.users.find? (·.id == k) with
  | some u => rfl
  | none => cases s.users.find? (·.name == k) <;> rfl

theorem singleRow_veil {name : String} :
    Scoreboard.singleRow (s.veil p) name = Scoreboard.singleRow s name := by
  have htest : ∀ row : Stats, ((s.veil p).user? row.userId).any (·.name == name) =
      (s.user? row.userId).any (·.name == name) := by
    intro row
    rw [user?_veil, Option.any_map]
    rfl
  have hrows : (s.veil p).statsOf name = s.statsOf name :=
    List.filter_congr fun row _ => htest row
  unfold Scoreboard.singleRow
  rw [hrows]

/-- Two users, each of whom passes the test by which the other one is found, are one. -/
theorem eq_of_find? {users : List User} {q q' : User → Bool} {u u' : User}
    (hu : users.find? q = some u) (hu' : users.find? q' = some u') (hq : q u' = true)
    (hq' : q' u = true) : u = u' := by
  induction users with
  | nil => cases hu
  | cons w users ih =>
    rw [List.find?_cons] at hu hu'
    cases hw : q w <;> cases hw' : q' w <;> rw [hw] at hu <;> rw [hw'] at hu'
    · exact ih hu hu'
    · cases hu'
      cases hw.symm.trans hq
    · cases hu
      cases hw'.symm.trans hq'
    · exact Option.some.inj (hu.symm.trans hu')

/-! ### Statements under the veil -/

theorem userIsUnique_veil {others : List User} {u : User} :
    userIsUnique (others.map (User.veil p)) (u.veil p) = userIsUnique others u := by
  unfold userIsUnique
  rw [List.any_map]
  rfl

theorem insertUser_veil {u : User} :
    (s.veil p).insertUser (u.veil p) = (s.insertUser u).map (veil p) := by
  have husers : (s.veil p).users ++ [u.veil p] = (s.users ++ [u]).map (User.veil p) := by
    rw [List.map_append]
    rfl
  unfold insertUser
  rw [husers, users_veil, userIsUnique_veil]
  show (checkFits [u.coins, u.gems] >>= fun _ =>
    checkConstraint (userIsUnique s.users u && balancesHold u) >>= _) = _
  cases checkFits [u.coins, u.gems] with
  | error stop => rfl
  | ok _ => cases checkConstraint (userIsUnique s.users u && balancesHold u) <;> rfl

theorem replaceUser_veil {u : User} :
    (s.veil p).replaceUser u.id (u.veil p) = (s.replaceUser u.id u).map (veil p) := by
  have hothers : (s.veil p).users.filter (·.id != u.id) =
      (s.users.filter (·.id != u.id)).map (User.veil p) := by
    rw [users_veil, List.filter_map]
    rfl
  have husers : (s.veil p).users.map (fun w => if w.id == u.id then u.veil p else w) =
      (s.users.map fun w => if w.id == u.id then u else w).map (User.veil p) := by
    rw [users_veil, List.map_map, List.map_map]
    refine List.map_congr_left fun w _ => ?_
    show (if w.id == u.id then u.veil p else w.veil p) = (if w.id == u.id then u else w).veil p
    split <;> rfl
  unfold replaceUser
  rw [hothers, husers, userIsUnique_veil]
  show (checkFits [u.coins, u.gems] >>= fun _ =>
    checkConstraint (userIsUnique (s.users.filter (·.id != u.id)) u && balancesHold u &&
      (u.id == u.id || !s.refersToUser u.id)) >>= _) = _
  cases checkFits [u.coins, u.gems] with
  | error stop => rfl
  | ok _ =>
    cases checkConstraint (userIsUnique (s.users.filter (·.id != u.id)) u && balancesHold u &&
      (u.id == u.id || !s.refersToUser u.id)) <;> rfl

/-- A row of a user has the password that is stored for it: so has the row of that id, if
it has the name and the email address too. -/
def KeepsPassword (s : Store) (u : User) : Prop :=
  ∀ old, s.user? u.id = some old → u.name = old.name → u.email = old.email →
    u.password = old.password

/-- A user is written under the veil as without it, if the password stays the same. -/
theorem writeUser_veil {now : Instant} {u : User} (hkept : s.KeepsPassword u) :
    (s.veil p).writeUser now (u.veil p) = (s.writeUser now u).map (veil p) := by
  have hfound : (s.veil p).user? (u.veil p).id = (s.user? u.id).map (User.veil p) := user?_veil
  unfold writeUser
  rw [hfound]
  cases hold : s.user? u.id with
  | none => rfl
  | some old =>
    -- The rows are the same if what the veil shows of them is.
    have hsame : ({ u.veil p with updatedAt := old.updatedAt } : User) = old.veil p ↔
        { u with updatedAt := old.updatedAt } = old := by
      constructor
      · intro (h : ({ u with updatedAt := old.updatedAt } : User).veil p = old.veil p)
        obtain ⟨-, hname, hemail, -⟩ := User.mk.inj h
        exact User.eq_of_veil h (hkept old hold hname hemail)
      · exact congrArg (User.veil p)
    show (if ({ u.veil p with updatedAt := old.updatedAt } : User) = old.veil p then _ else _) =
      Except.map _ (if { u with updatedAt := old.updatedAt } = old then _ else _)
    rw [if_congr hsame rfl rfl, apply_ite (Except.map (veil p))]
    exact ite_congr rfl (fun _ => rfl) fun _ => replaceUser_veil (u := { u with updatedAt := now })

/-- A row that was found by its id is the one that is stored. -/
theorem keepsPassword_of_user? {u : User} (hu : s.user? k = some u) : s.KeepsPassword u := by
  intro old hold _ _
  rw [id_of_user? hu, hu] at hold
  rw [Option.some.inj hold]

/-- A row that was found by a key is the one that is stored. -/
theorem keepsPassword_of_userByKey? {u : User} (hu : s.userByKey? k = some u) :
    s.KeepsPassword u := by
  intro old hold hname hemail
  suffices hsame : u = old by rw [hsame]
  have hid : old.id = u.id := id_of_user? hold
  unfold userByKey? at hu
  cases hbyId : s.users.find? (·.id == k) with
  | some w =>
    rw [hbyId] at hu
    obtain rfl : w = u := Option.some.inj hu
    have hk := List.find?_some hbyId
    exact eq_of_find? hbyId hold (hid ▸ hk) (beq_self_eq_true w.id)
  | none =>
    rw [hbyId] at hu
    cases hbyName : s.users.find? (·.name == k) with
    | some w =>
      rw [hbyName] at hu
      obtain rfl : w = u := Option.some.inj hu
      have hk := List.find?_some hbyName
      exact eq_of_find? hbyName hold (hname ▸ hk) (beq_self_eq_true w.id)
    | none =>
      rw [hbyName] at hu
      have hk := List.find?_some hu
      exact eq_of_find? hu hold (hemail ▸ hk) (beq_self_eq_true u.id)

theorem deleteUser_veil : (s.veil p).deleteUser k = (s.deleteUser k).veil p := by
  unfold deleteUser
  rw [users_veil, List.filter_map]
  rfl

theorem insertStats_veil {row : Stats} :
    (s.veil p).insertStats row = (s.insertStats row).map (veil p) := by
  unfold insertStats
  rw [user?_veil, Option.isSome_map, stats_veil]
  cases checkFits (statsNumbers row) with
  | error stop => rfl
  | ok _ =>
    cases checkConstraint (!s.stats.any (·.id == row.id) && (s.user? row.userId).isSome) <;> rfl

theorem writeStats_veil {row : Stats} :
    (s.veil p).writeStats row = (s.writeStats row).map (veil p) := by
  unfold writeStats
  cases checkFits (statsNumbers row) <;> rfl

theorem insertPossession_veil {q : Possession} :
    (s.veil p).insertPossession q = (s.insertPossession q).map (veil p) := by
  unfold insertPossession possessionRefers
  rw [user?_veil, Option.isSome_map, item?_veil, possession?_veil]
  cases checkConstraint ((s.possession? q.userId q.itemId).isNone &&
    ((s.user? q.userId).isSome && (s.item? q.itemId).isSome)) <;> rfl

theorem insertItem_veil {item : Item} :
    (s.veil p).insertItem item = (s.insertItem item).map (veil p) := by
  unfold insertItem
  rw [items_veil]
  cases checkFits (itemNumbers item) with
  | error stop => rfl
  | ok _ => cases checkConstraint (itemIsUnique s.items item) <;> rfl

theorem writeItem_veil {now : Instant} {item : Item} :
    (s.veil p).writeItem now item = (s.writeItem now item).map (veil p) := by
  unfold writeItem replaceItem refersToItem
  rw [item?_veil, items_veil, possessions_veil]
  cases s.item? item.id with
  | none => rfl
  | some old =>
    dsimp only
    split
    · rfl
    · cases checkFits (itemNumbers { item with updatedAt := now }) with
      | error stop => rfl
      | ok _ =>
        cases checkConstraint (itemIsUnique (s.items.filter (·.id != item.id))
          { item with updatedAt := now } && (item.id == item.id ||
            !s.possessions.any (·.itemId == item.id))) <;> rfl

theorem insertNews_veil {news : News} :
    (s.veil p).insertNews news = (s.insertNews news).map (veil p) := by
  unfold insertNews
  rw [news_veil]
  cases checkConstraint (newsIsUnique s.news news) <;> rfl

theorem writeNews_veil {news : News} :
    (s.veil p).writeNews news = (s.writeNews news).map (veil p) := by
  unfold writeNews replaceNews
  rw [news_veil]
  cases checkConstraint (newsIsUnique (s.news.filter (·.id != news.id)) news) <;> rfl

theorem wear_veil {slot : List Possession} {target : Possession} :
    Wardrobe.wear (s.veil p) slot target = (Wardrobe.wear s slot target).veil p := by
  rw [Wardrobe.wear_eq, Wardrobe.wear_eq]
  rfl

end Store

/-! ### Operations that hold no passwords -/

section Within

open Session

variable {m : Moment} {d : Desk} {p : String → Bool}

theorem Registry.read_veil {key : Value} : Within (Store.veil p) (read key) d := by
  refine .after fun k _ => .reporting (.transaction (.readingFor ?_ fun _ _ => ?_))
  · rw [Store.userByKey?_veil]
    -- A profile says nothing of the password.
    cases d.store.userByKey? k <;> rfl
  · cases d.store.userByKey? k with
    | none => exact within_fail
    | some user => exact within_pure

theorem Registry.delete_veil {id : Value} : Within (Store.veil p) (delete id) d := by
  exact .after fun _ _ => .reporting (.transaction (within_runFor Store.deleteUser_veil))

theorem Catalogue.create_veil {draft : Draft} : Within (Store.veil p) (create m draft) d := by
  refine .after fun name _ => .after fun slot _ => .after fun image _ => .after fun text _ =>
    .after fun coins _ => .after fun gems _ => .after fun saleCoins _ => .after fun saleGems _ =>
    .reporting (.transaction (.reading rfl fun _ _ => .after fun _ _ => ?_))
  refine within_takeRowId.bind fun id _ _ => .after fun _ _ => ?_
  exact within_written Store.insertItem_veil

theorem Catalogue.read_veil {id : Value} : Within (Store.veil p) (read id) d := by
  refine .after fun k _ => .reporting (.transaction (.readingFor rfl fun _ _ => ?_))
  cases d.store.item? k with
  | none => exact within_fail
  | some item => exact within_pure

theorem Catalogue.list_veil : Within (Store.veil p) list d :=
  .reporting (.transaction (.reading rfl fun _ _ => within_pure))

theorem Catalogue.update_veil {id : Value} {change : Change} :
    Within (Store.veil p) (update m id change) d := by
  refine .after fun k _ => .after fun merge _ =>
    .reporting (.transaction (.readingFor rfl fun d₁ _ => ?_))
  cases d.store.item? k with
  | none => exact within_fail
  | some item =>
    refine .reading rfl fun _ _ => .after fun _ _ => .after fun _ _ => ?_
    exact (within_run Store.writeItem_veil).bind fun _ _ _ => within_flush.bind
      fun _ _ _ => .reading rfl fun _ _ => within_pure

theorem Catalogue.delete_veil {id : Value} : Within (Store.veil p) (delete id) d :=
  .after fun _ _ => .reporting (.transaction (within_runFor rfl))

theorem Catalogue.possessions_veil {operation : String} {equippedOnly : Bool} {userId : Value} :
    Within (Store.veil p) (possessions operation equippedOnly userId) d := by
  refine .after fun k _ => .reporting (.transaction (.readingFor ?_ fun _ _ => ?_))
  · dsimp only
    rw [Store.user?_veil, Option.isNone_map]
    rfl
  · exact .guarded fun _ => within_pure

theorem Wardrobe.equip_veil {userId itemId : Value} :
    Within (Store.veil p) (equip m userId itemId) d := by
  refine .after fun u _ => .after fun i _ =>
    .reporting (.transaction (.readingFor rfl fun d₁ _ => ?_))
  cases d.store.item? i with
  | none => exact within_fail
  | some item =>
    refine .readingFor rfl fun _ _ => ?_
    dsimp only
    cases (d₁.store.possessionsIn u item.slot).find? (·.itemId == i) with
    | none => exact within_fail
    | some target =>
      dsimp only
      split
      · exact within_pure
      · refine within_written ?_
        exact congrArg Except.ok Store.wear_veil

theorem Scoreboard.read_veil {username : Value} : Within (Store.veil p) (read username) d := by
  refine .after fun name _ => .reporting (.transaction (.readingFor ?_ fun _ _ => ?_))
  · rw [Store.singleRow_veil]
  · exact .after fun _ _ => within_pure

theorem Scoreboard.add_veil {username : Value} {deltas : Deltas} :
    Within (Store.veil p) (add m username deltas) d := by
  refine .after fun name _ => .after fun k _ => .after fun g _ => .after fun t _ =>
    .after fun w _ => .reporting (.transaction (.readingFor ?_ fun _ _ => .after fun row _ => ?_))
  · rw [Store.singleRow_veil]
  · refine .after fun kills _ => .after fun games _ => .after fun top5 _ => .after fun wins _ => ?_
    exact within_written Store.writeStats_veil

theorem Bulletin.create_veil {title text link : Value} :
    Within (Store.veil p) (create m title text link) d := by
  refine .after fun t _ => .after fun description _ => .after fun image _ =>
    .reporting (.transaction (.reading rfl fun _ _ => .after fun _ _ => ?_))
  refine within_takeRowId.bind fun id _ _ => .after fun _ _ => .after fun _ _ => ?_
  exact within_written Store.insertNews_veil

theorem Bulletin.read_veil {id : Value} : Within (Store.veil p) (read id) d := by
  refine .after fun k _ => .reporting (.transaction (.readingFor rfl fun _ _ => ?_))
  cases d.store.news? k with
  | none => exact within_fail
  | some news => exact within_pure

theorem Bulletin.list_veil : Within (Store.veil p) list d :=
  .reporting (.transaction (.reading rfl fun _ _ => within_pure))

theorem Bulletin.update_veil {id title text link : Value} :
    Within (Store.veil p) (update m id title text link) d := by
  refine .after fun k _ => .after fun newTitle _ => .after fun description _ =>
    .after fun image _ => .reporting (.transaction (.readingFor rfl fun d₁ _ => ?_))
  cases d.store.news? k with
  | none => exact within_fail
  | some news =>
    have hwrite : ∀ news : News, ∀ d : Desk, Within (Store.veil p)
        (liftM (checkBytes text) >>= fun _ => liftM (checkBytes link) >>= fun _ =>
          run (·.writeNews news) >>= fun _ => flush m .news >>= fun _ => pure news) d := by
      intro news d
      refine .after fun _ _ => .after fun _ _ => ?_
      exact within_written Store.writeNews_veil
    cases newTitle with
    | none => exact hwrite _ _
    | some t => exact .reading rfl fun _ _ => .after fun _ _ => hwrite _ _

end Within

end Guildhall
