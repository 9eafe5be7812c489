/-
Guildhall/Proofs/Removal.lean

What a removal takes out of the store.  Removing a user or an item always works where the
storage does, also if there is none of the id, and it leaves exactly the rows that are not of
the id, in all five tables:

    rows (delete k s)  =  rows s  without those of k.

The rows of a user are the user, the possessions and the statistics; the rows of an item are
the item and its possessions.  So a second removal finds nothing to do.  What was unique about
the removed user, the name and the address, is free again, and so are the name in the slot and
the image of a removed item.  Whoever takes them gets a fresh id, of which there are no old
rows, because no row refers to a user or an item that does not exist.

Main statement: `removal_exact`.
-/
import Guildhall.Proofs.Clash
import Guildhall.Proofs.Vacancy

namespace Guildhall

open Session

/-! ### The rows of a user and of an item -/

/-- A row of one of the five tables. -/
inductive Row
  | user (u : User)
  | item (i : Item)
  | possession (p : Possession)
  | stats (row : Stats)
  | news (n : News)
  deriving DecidableEq

/-- The rows of all tables. -/
def Store.rows (s : Store) : List Row :=
  s.users.map .user ++ s.items.map .item ++ s.possessions.map .possession ++
    s.stats.map .stats ++ s.news.map .news

/-- Whether a row is the user of an id or belongs to that user. -/
def Row.isOfUser (k : String) : Row → Bool
  | user u => u.id == k
  | possession p => p.userId == k
  | stats row => row.userId == k
  | item _ | news _ => false

/-- Whether a row is the item of an id or refers to that item. -/
def Row.isOfItem (k : String) : Row → Bool
  | item i => i.id == k
  | possession p => p.itemId == k
  | user _ | stats _ | news _ => false

namespace Store

variable {s : Store} {k : String}

/-- A test of rows is a test of the rows of each table. -/
theorem filter_rows (q : Row → Bool) :
    s.rows.filter q = (s.users.filter (q <| .user ·)).map .user ++
      (s.items.filter (q <| .item ·)).map .item ++
      (s.possessions.filter (q <| .possession ·)).map .possession ++
      (s.stats.filter (q <| .stats ·)).map .stats ++ (s.news.filter (q <| .news ·)).map .news := by
  simp only [rows, List.filter_append, List.filter_map]
  rfl

/-- **Exactly the rows of the user go.** -/
theorem rows_deleteUser : (s.deleteUser k).rows = s.rows.filter (! ·.isOfUser k) := by
  rw [filter_rows]
  simp [rows, deleteUser, Row.isOfUser, bne]

/-- **Exactly the rows of the item go.** -/
theorem rows_deleteItem : (s.deleteItem k).rows = s.rows.filter (! ·.isOfItem k) := by
  rw [filter_rows]
  simp [rows, deleteItem, Row.isOfItem, bne]

theorem deleteUser_deleteUser : (s.deleteUser k).deleteUser k = s.deleteUser k := by
  simp [deleteUser]

theorem deleteItem_deleteItem : (s.deleteItem k).deleteItem k = s.deleteItem k := by
  simp [deleteItem]

/-- The rows of a user who has just been added: nothing has referred to the user before. -/
theorem Sound.rows_registered (hs : s.Sound) {u : User} {row : Stats}
    (hfresh : ∀ v ∈ s.users, v.id ≠ u.id) (hrow : row.userId = u.id) :
    (rows { s with users := s.users ++ [u], stats := s.stats ++ [row] }).filter
      (·.isOfUser u.id) = [.user u, .stats row] := by
  have hids : ∀ id ∈ s.users.map (·.id), id ≠ u.id := by simpa using hfresh
  have husers : s.users.filter (·.id == u.id) = [] := by simpa using hfresh
  have hpossessions : s.possessions.filter (·.userId == u.id) = [] := by
    simpa using fun p hp => hids _ (hs.possessionUsers p hp)
  have hstats : s.stats.filter (·.userId == u.id) = [] := by
    simpa using fun r hr => hids _ (hs.statsUsers.mem_iff.1 (List.mem_map.2 ⟨r, hr, rfl⟩))
  rw [filter_rows]
  simp [List.filter_append, Row.isOfUser, husers, hpossessions, hstats, hrow]

/-- The rows of an item that has just been added. -/
theorem Sound.rows_created (hs : s.Sound) {i : Item} (hfresh : ∀ j ∈ s.items, j.id ≠ i.id) :
    (rows { s with items := s.items ++ [i] }).filter (·.isOfItem i.id) = [.item i] := by
  have hids : ∀ id ∈ s.items.map (·.id), id ≠ i.id := by simpa using hfresh
  have hitems : s.items.filter (·.id == i.id) = [] := by simpa using hfresh
  have hpossessions : s.possessions.filter (·.itemId == i.id) = [] := by
    simpa using fun p hp => hids _ (hs.possessionItems p hp)
  rw [filter_rows]
  simp [List.filter_append, Row.isOfItem, hitems, hpossessions]

end Store

/-- A registration adds a user, and the only other row of the user is one of empty
statistics. -/
theorem Deed.rows_registered {m : Moment} {s s' : Store} {name email password : Value}
    {n e p : String} {answer : Answer} (h : Deed m s (.register name email password) answer s')
    (hs : s.Sound) (hname : Input.text name "name" (some Input.nameLimit) = .ok n)
    (hemail : Input.email email "email" = .ok e)
    (hpassword : Input.text password "password" none = .ok p) :
    ∃ id statsId, answer = .profile (Registry.profile (Registry.newcomer m.now id n e p)) ∧
      s'.rows.filter (·.isOfUser id) =
        [.user (Registry.newcomer m.now id n e p), .stats { id := statsId, userId := id }] := by
  cases h with
  | look hlooks => cases hlooks
  | @register _ _ _ _ _ _ id statsId _ _ hname' hemail' hpassword' _ _ huser hstats =>
    obtain rfl := Input.text_unique hname hname'
    obtain rfl := Except.ok.inj (hemail.symm.trans hemail')
    obtain rfl := Input.text_unique hpassword hpassword'
    obtain ⟨-, hunique, -, rfl⟩ := Store.insertUser_eq_ok.1 huser
    obtain ⟨-, -, -, rfl⟩ := Store.insertStats_eq_ok.1 hstats
    exact ⟨id, statsId, rfl, hs.rows_registered (fun v hv => (hunique v hv).1) rfl⟩

/-- The creation of an item adds the item, and no other row is of the item. -/
theorem Deed.rows_created {m : Moment} {s s' : Store} {draft : Catalogue.Draft}
    {name image : String} {slot : Int} {answer : Answer}
    (h : Deed m s (.createItem draft) answer s') (hs : s.Sound)
    (hname : Input.text draft.name "name" (some Catalogue.nameLimit) = .ok name)
    (hslot : Input.integer draft.slot "type" (some 0) none = .ok slot)
    (himage : Input.text draft.imageId "image_id" (some Catalogue.imageLimit) = .ok image) :
    ∃ i : Item, answer = .item i ∧ i.name = name ∧ i.slot = slot ∧ i.imageId = image ∧
      s'.rows.filter (·.isOfItem i.id) = [.item i] := by
  cases h with
  | look hlooks => cases hlooks
  | @createItem _ item _ _ hname' hslot' himage' _ _ _ _ _ _ _ hinsert =>
    obtain ⟨-, hunique, rfl⟩ := Store.insertItem_eq_ok.1 hinsert
    exact ⟨item, rfl, Input.text_unique hname' hname,
      Except.ok.inj (hslot'.symm.trans hslot), Input.text_unique himage' himage,
      hs.rows_created fun j hj => (hunique j hj).1⟩

/-! ### What is free after a removal -/

/-- Where a column is unique, no row that is left has the value of one that has been
removed. -/
theorem Rows.ne_of_removed {α κ β : Type} [DecidableEq κ] {k : α → κ} {g : α → β} {l : List α}
    {x : α} (hg : (l.map g).Nodup) (hx : x ∈ l) : ∀ y ∈ l.filter (k · != k x), g y ≠ g x := by
  intro y hy hsame
  obtain ⟨hy, hne⟩ := List.mem_filter.1 hy
  obtain rfl := eq_of_key hg hy hx hsame
  exact bne_iff_ne.1 hne rfl

namespace Store

variable {s : Store}

/-- Nobody else has the name or the address of a user who has been removed. -/
theorem Sound.free_of_deleteUser (hs : s.Sound) {u : User} (hu : u ∈ s.users) :
    ∀ v ∈ (s.deleteUser u.id).users, v.name ≠ u.name ∧ v.email ≠ u.email := fun v hv =>
  ⟨Rows.ne_of_removed hs.userNames hu v hv, Rows.ne_of_removed hs.userEmails hu v hv⟩

/-- No other item has the name and the slot, or the image, of an item that has been
removed. -/
theorem Sound.free_of_deleteItem (hs : s.Sound) {i : Item} (hi : i ∈ s.items) :
    ∀ j ∈ (s.deleteItem i.id).items,
      (j.name, j.slot) ≠ (i.name, i.slot) ∧ j.imageId ≠ i.imageId := fun j hj =>
  ⟨Rows.ne_of_removed hs.itemNames hi j hj, Rows.ne_of_removed hs.itemImages hi j hj⟩

end Store

/-! ### The calls -/

section Ready

variable {d : Desk} {m : Moment}

/-- A statement that checks nothing but the key it is for is carried out. -/
theorem Session.statement_ready {f : Failure} {given : Value} {change : Store → Store}
    (hd : d.Ready) (hgiven : checkBytes given = .ok ()) :
    reportingAs f (transaction (run fun s => (checkBytes given).map fun _ => change s)) d =
      .ok () { d with store := change d.store } := by
  have hchange : (checkBytes given).map (fun _ => change d.store) = .ok (change d.store) := by
    rw [hgiven]
    rfl
  exact reporting_ready (transaction_ready hd (run_ready hd hchange) (hd.holding _ _))

theorem Registry.delete_ready {id : Value} {k : String} (hd : d.Ready)
    (hid : Input.Names id "id" k) :
    delete id d = .ok () { d with store := d.store.deleteUser k } :=
  (passed_ready hid.check).trans (statement_ready hd hid.bytes)

theorem Catalogue.delete_ready {id : Value} {k : String} (hd : d.Ready)
    (hid : Input.Names id "id" k) :
    delete id d = .ok () { d with store := d.store.deleteItem k } :=
  (passed_ready hid.check).trans (statement_ready hd hid.bytes)

/-- A registration is carried out if the name and the address are free. -/
theorem Service.register_free (service : Service) (hd : d.Ready) (hm : m.fault = none)
    (hfresh : d.Fresh) (hs : d.store.Sound) (hdomain : d.store.InDomain)
    {name email password n e p : String}
    (hname : Input.text (.text name) "name" (some Input.nameLimit) = .ok n)
    (hemail : Input.email (.text email) "email" = .ok e)
    (hpassword : Input.text (.text password) "password" none = .ok p)
    (hfree : ∀ u ∈ d.store.users, u.name ≠ n ∧ u.email ≠ e) :
    ∃ id statsId d',
      service.perform m (.register (.text name) (.text email) (.text password)) d =
        .ok (.profile (Registry.profile (Registry.newcomer m.now id n e p))) d' ∧
      d'.store.rows.filter (·.isOfUser id) =
        [.user (Registry.newcomer m.now id n e p), .stats { id := statsId, userId := id }] := by
  have hwhole : (Call.register (.text name) (.text email) (.text password)).Whole := by
    simp [Call.Whole, Call.arguments]
  have hcheck : (Call.register (.text name) (.text email) (.text password)).check = .ok () :=
    Except.bind_eq_ok.2 ⟨n, hname, Except.bind_eq_ok.2 ⟨e, hemail,
      Except.bind_eq_ok.2 ⟨p, hpassword, rfl⟩⟩⟩
  have hsettles := (Call.Asks.register hname hemail).settles service hd hm hfresh hs hdomain
    hwhole hcheck
  obtain ⟨answer, d', h⟩ := hsettles.ok_iff.2 <| firstTaken_eq_ok.2 <| by
    simpa using ⟨fun u hu => (hfree u hu).1, fun u hu => (hfree u hu).2⟩
  obtain ⟨id, statsId, rfl, hrows⟩ :=
    (deed_of_perform h).rows_registered hs hname hemail hpassword
  exact ⟨id, statsId, d', h, hrows⟩

/-- An item is created if the name is free in the slot, and so is the image. -/
theorem Service.createItem_free (service : Service) (hd : d.Ready) (hm : m.fault = none)
    (hfresh : d.Fresh) (hs : d.store.Sound) (hdomain : d.store.InDomain)
    {draft : Catalogue.Draft} (hwhole : (Call.createItem draft).Whole)
    (hcheck : (Call.createItem draft).check = .ok ()) {name image : String} {slot : Int}
    (hname : Input.text draft.name "name" (some Catalogue.nameLimit) = .ok name)
    (hslot : Input.integer draft.slot "type" (some 0) none = .ok slot)
    (himage : Input.text draft.imageId "image_id" (some Catalogue.imageLimit) = .ok image)
    (hlimit : slot ≤ greatestStored)
    (hfree : ∀ i ∈ d.store.items, (i.name, i.slot) ≠ (name, slot) ∧ i.imageId ≠ image) :
    ∃ (i : Item) (d' : Desk), service.perform m (.createItem draft) d = .ok (.item i) d' ∧
      i.name = name ∧ i.slot = slot ∧ i.imageId = image ∧
      d'.store.rows.filter (·.isOfItem i.id) = [.item i] := by
  have hsettles := (Call.Asks.createItem hname hslot himage hlimit).settles service hd hm hfresh
    hs hdomain hwhole hcheck
  obtain ⟨answer, d', h⟩ := hsettles.ok_iff.2 <| firstTaken_eq_ok.2 <| by
    simpa using ⟨fun i hi => by simpa using (hfree i hi).1, fun i hi => (hfree i hi).2⟩
  obtain ⟨i, rfl, hi⟩ := (deed_of_perform h).rows_created hs hname hslot himage
  exact ⟨i, d', h, hi⟩

end Ready

/-! ### Removals and what comes after them -/

namespace Catalogue

/-- A draft with the name, the slot and the image of an item. -/
def Draft.like (draft : Draft) (i : Item) : Draft :=
  { draft with name := .text i.name, slot := .int i.slot, imageId := .text i.imageId }

/-- A draft that is in order still is with the name, the slot and the image of an item that
has been stored. -/
theorem Draft.check_like {draft : Draft} {i : Item} (hi : i.InDomain)
    (hslot : Input.integer (.int i.slot) "type" (some 0) none = .ok i.slot)
    (hcheck : (Call.createItem draft).check = .ok ()) :
    (Call.createItem (draft.like i)).check = .ok () := by
  obtain ⟨_, -, hcheck⟩ := Except.bind_eq_ok.1 hcheck
  obtain ⟨_, -, hcheck⟩ := Except.bind_eq_ok.1 hcheck
  obtain ⟨_, -, hcheck⟩ := Except.bind_eq_ok.1 hcheck
  exact Except.bind_eq_ok.2 ⟨_, Input.text_of_isLabel hi.name, Except.bind_eq_ok.2 ⟨_, hslot,
    Except.bind_eq_ok.2 ⟨_, Input.text_of_isLabel hi.imageId, hcheck⟩⟩⟩

theorem Draft.whole_like {draft : Draft} {i : Item} (hwhole : (Call.createItem draft).Whole) :
    (Call.createItem (draft.like i)).Whole := by
  simp only [Call.Whole, Call.arguments, List.forall_mem_cons] at hwhole ⊢
  obtain ⟨-, -, -, hrest⟩ := hwhole
  refine ⟨?_, ?_, ?_, hrest⟩
  all_goals rintro raw ⟨⟩

end Catalogue

/-- **A removal takes out exactly the rows of its id.**  A run from empty tables has reached
the store of a desk at which nothing goes wrong, and the id has passed its check.  The
removal of the user works, whether there is one or not, and leaves the rows that are not of
the user, in all five tables.  At every such desk with the store that is left, removing the
user again changes nothing; and if there was a user, somebody can register with the name and
the address, with whatever password passes, and has no rows but a user with a fresh id and
empty statistics.  In the same way the removal of an item leaves all rows but those of the
item, and after it another item can have the name, the slot and the image, and is nobody's
possession. -/
theorem removal_exact (service : Service) (desk : Desk) (steps : List Step) (m : Moment) {d : Desk}
    (hstore : d.store = (service.run { desk with store := {} } steps).store) (hd : d.Ready)
    {given k : String} (hid : Input.identifier (.text given) "id" = .ok k) :
    (∃ s, service.perform m (.deleteUser (.text given)) d = .ok .done { d with store := s } ∧
      s.rows = d.store.rows.filter (! ·.isOfUser k) ∧
      ∀ (e : Desk) (n : Moment), e.store = s → e.Ready →
        service.perform n (.deleteUser (.text given)) e = .ok .done e ∧
        ∀ u ∈ d.store.users, u.id = k → n.fault = none → e.Fresh →
          ∀ password p, Input.text (.text password) "password" none = .ok p →
            ∃ id statsId e',
              service.perform n (.register (.text u.name) (.text u.email) (.text password)) e =
                .ok (.profile (Registry.profile (Registry.newcomer n.now id u.name u.email p))) e' ∧
              e'.store.rows.filter (·.isOfUser id) =
                [.user (Registry.newcomer n.now id u.name u.email p),
                  .stats { id := statsId, userId := id }]) ∧
    ∃ s, service.perform m (.deleteItem (.text given)) d = .ok .done { d with store := s } ∧
      s.rows = d.store.rows.filter (! ·.isOfItem k) ∧
      ∀ (e : Desk) (n : Moment), e.store = s → e.Ready →
        service.perform n (.deleteItem (.text given)) e = .ok .done e ∧
        ∀ i ∈ d.store.items, i.id = k → n.fault = none → e.Fresh →
          ∀ draft : Catalogue.Draft, (Call.createItem draft).Whole →
            (Call.createItem draft).check = .ok () →
              ∃ (j : Item) (e' : Desk),
                service.perform n (.createItem (draft.like i)) e = .ok (.item j) e' ∧
                j.name = i.name ∧ j.slot = i.slot ∧ j.imageId = i.imageId ∧
                e'.store.rows.filter (·.isOfItem j.id) = [.item j] := by
  have hs : d.store.Sound := hstore ▸ (service.chronicle _ steps).sound .empty
  have hdomain : d.store.InDomain :=
    hstore ▸ (service.chronicle { desk with store := {} } steps).inDomain
  have hdeedUser : Deed m d.store (.deleteUser (.text given)) .done (d.store.deleteUser k) :=
    .deleteUser hid
  have hdeedItem : Deed m d.store (.deleteItem (.text given)) .done (d.store.deleteItem k) :=
    .deleteItem hid
  have hnames := Input.names_text hid
  refine ⟨⟨d.store.deleteUser k, bind_ready (Registry.delete_ready hd hnames),
    Store.rows_deleteUser, fun e n he hready => ⟨?_, ?_⟩⟩, d.store.deleteItem k,
    bind_ready (Catalogue.delete_ready hd hnames), Store.rows_deleteItem,
    fun e n he hready => ⟨?_, ?_⟩⟩
  · refine (bind_ready (Registry.delete_ready hready hnames)).trans ?_
    rw [he, Store.deleteUser_deleteUser, ← he]
    rfl
  · rintro u hu rfl hn hfresh password p hpassword
    have hu' := hdomain.users u hu
    exact service.register_free hready hn hfresh (he ▸ hs.deed hdeedUser)
      (he ▸ hdomain.deed hdeedUser hs) (Input.text_of_isLabel hu'.name)
      (Input.email_of_isLabel hu'.email hu'.shape) hpassword (he ▸ hs.free_of_deleteUser hu)
  · refine (bind_ready (Catalogue.delete_ready hready hnames)).trans ?_
    rw [he, Store.deleteItem_deleteItem, ← he]
    rfl
  · rintro i hi rfl hn hfresh draft hwhole hcheck
    have hi' := hdomain.items i hi
    have hslot : Input.integer (.int i.slot) "type" (some 0) none = .ok i.slot :=
      Input.integer_eq_ok.2 ⟨rfl, by simpa using hi'.slot.1, nofun⟩
    exact service.createItem_free hready hn hfresh (he ▸ hs.deed hdeedItem)
      (he ▸ hdomain.deed hdeedItem hs) (Catalogue.Draft.whole_like hwhole)
      (Catalogue.Draft.check_like hi' hslot hcheck) (Input.text_of_isLabel hi'.name) hslot
      (Input.text_of_isLabel hi'.imageId) hi'.slot.2 (he ▸ hs.free_of_deleteItem hi)

open TwoHats in
/-- With the user go the possessions and the statistics, but not the items; then somebody
else has the name and the address, and no item. -/
theorem removal_exact_wardrobe :
    ∃ s, service.perform noon (.deleteUser (.text " ada ")) (wardrobe 2 false false) =
        .ok .done { wardrobe 2 false false with store := s } ∧
      s.rows = [.item (piece "cap" "q" 2), .item (piece "hat" "p" 1)] ∧
      ∃ id statsId e', service.perform noon (.register (.text "ada") (.text "a@b.c") (.text "new"))
          { wardrobe 2 false false with store := s } =
            .ok (.profile (Registry.profile (Registry.newcomer ⟨0⟩ id "ada" "a@b.c" "new"))) e' ∧
        e'.store.rows.filter (·.isOfUser id) =
          [.user (Registry.newcomer ⟨0⟩ id "ada" "a@b.c" "new"),
            .stats { id := statsId, userId := id }] := by
  have hstore : (wardrobe 2 false false).store =
      (service.run { desk with store := {} } shopping).store :=
    (congrArg Desk.store run_shopping).symm
  have hid : Input.identifier (.text " ada ") "id" = .ok "ada" := rfl
  obtain ⟨⟨s, hdone, hrows, hafter⟩, -⟩ :=
    removal_exact service desk shopping noon hstore (wardrobe_ready _ _ _) hid
  obtain rfl : (wardrobe 2 false false).store.deleteUser "ada" = s :=
    congrArg Desk.store (EStateM.Result.ok.inj (Eq.trans (Eq.symm (by rfl)) hdone)).2
  refine ⟨_, hdone, hrows.trans rfl, ?_⟩
  have hfresh : Desk.Fresh { wardrobe 2 false false with
      store := (wardrobe 2 false false).store.deleteUser "ada" } := by
    constructor <;> decide
  exact (hafter _ noon rfl ⟨rfl, rfl, rfl⟩).2 ada (.head _) rfl rfl hfresh "new" "new" rfl

end Guildhall
