/-
Guildhall/Proofs/Vacancy.lean

What may not occur twice, and who notices.  Five calls write columns that are unique: a
registration, the creation and the change of an item, the creation and the change of an
announcement.  Each of them looks for other rows with the new values before it writes, and
the tables look again when it does.  The two agree: on a desk at which nothing goes wrong,
with fresh ids, such a call gives a result if and only if none of its values is taken, and
else reports the first one that is,

    Settles looks x d :  x gives a result if the looks pass, and stops as they do.

So the tables never have to turn such a row down, and the failures that would report it are
never seen.

Main statement: `unique_iff_vacant`.
-/
import Guildhall.Proofs.Ledger
import Guildhall.Proofs.Reporting

namespace Guildhall

open Session

variable {m : Moment} {d d' : Desk} {s : Store}

/-! ### Work that is decided by looks -/

namespace Session

variable {α β : Type} {looks : Except Stop Unit}

/-- Work that comes to a result if some looks pass, and stops as they do if not. -/
def Settles (looks : Except Stop Unit) (x : Session α) (d : Desk) : Prop :=
  match looks with
  | .ok () => ∃ a d', x d = .ok a d' ∧ d'.Ready
  | .error stop => Halts x d stop

theorem settles_pure {a : α} (hd : d.Ready) : Settles (.ok ()) (pure a) d := ⟨a, d, rfl, hd⟩

/-- A look that comes before the other ones. -/
theorem Settles.after {x : Except Stop Unit} {rest : Unit → Except Stop Unit}
    {f : Unit → Session β} (hf : x = .ok () → Settles (rest ()) (f ()) d) :
    Settles (x >>= rest) ((liftM x : Session Unit) >>= f) d := by
  cases x with
  | error stop => exact ⟨d, rfl⟩
  | ok _ => exact hf rfl

/-- The last look. -/
theorem Settles.last {x : Except Stop Unit} {f : Unit → Session β}
    (hf : x = .ok () → Settles (.ok ()) (f ()) d) :
    Settles x ((liftM x : Session Unit) >>= f) d := by
  cases x with
  | error stop => exact ⟨d, rfl⟩
  | ok _ => exact hf rfl

/-- Work after a check that is known to pass. -/
theorem Settles.passed {x : Except Stop α} {a : α} {f : α → Session β} (hx : x = .ok a)
    (hf : Settles looks (f a) d) : Settles looks ((liftM x : Session α) >>= f) d := by
  rw [hx]
  exact hf

theorem Settles.rest {a : α} {x : Session α} {f : α → Session β} (hx : x d = .ok a d')
    (hf : Settles looks (f a) d') : Settles looks (x >>= f) d := by
  cases looks with
  | error stop => exact Halts.rest hx hf
  | ok _ =>
    obtain ⟨b, d₁, h, hd₁⟩ := hf
    exact ⟨b, d₁, (bind_ready hx).trans h, hd₁⟩

theorem Settles.afterStore {f : Store → Session β} (hd : d.Ready)
    (hf : Settles looks (f d.store) d) : Settles looks (store >>= f) d :=
  .rest (store_ready hd) hf

theorem Settles.afterStoreFor {given : Value} {f : Store → Session β} (hd : d.Ready)
    (hgiven : checkBytes given = .ok ()) (hf : Settles looks (f d.store) d) :
    Settles looks (storeFor given >>= f) d := .rest (storeFor_ready hd hgiven) hf

/-- A row id is taken from the supply. -/
theorem Settles.afterRowId {f : String → Session β}
    (hf : Settles looks (f d.supply.nextRow.1) { d with supply := d.supply.nextRow.2 }) :
    Settles looks (takeRowId >>= f) d := .rest rfl hf

theorem Settles.afterRun {statement : Store → Except Stop Store} {s : Store}
    {f : Unit → Session β} (hd : d.Ready) (hs : statement d.store = .ok s)
    (hf : Settles looks (f ()) { d with store := s }) :
    Settles looks (run statement >>= f) d := .rest (run_ready hd hs) hf

theorem Settles.afterFlush {site : Site} {f : Unit → Session β} (hd : d.Ready)
    (hm : m.fault = none) (hf : Settles looks (f ()) d) :
    Settles looks (flush m site >>= f) d := .rest (flush_ready hd hm) hf

theorem Settles.answer {x : Session α} (hx : Settles looks x d) (f : α → β) :
    Settles looks (x >>= fun a => pure (f a)) d := by
  cases looks with
  | error stop => exact Halts.first hx
  | ok _ =>
    obtain ⟨a, d₁, h, hd₁⟩ := hx
    exact ⟨f a, d₁, bind_ready h, hd₁⟩

/-- A unit of work is settled as its work is, if the storage has no part in the looks. -/
theorem Settles.reported {work : Session α} {f g : Failure} (hd : d.Ready)
    (hlooks : Except.Only (¬·.IsStorage) looks) (hwork : Settles looks work d) :
    Settles looks (reporting f g (transaction work)) d := by
  cases looks with
  | error stop => exact Halts.reported hd.calm hwork (hlooks stop rfl)
  | ok _ =>
    obtain ⟨a, d₁, h, hd₁⟩ := hwork
    exact ⟨a, d₁, reporting_ready (transaction_ready hd h hd₁), hd₁⟩

/-- Work ends in one way only. -/
theorem Halts.unique {x : Session α} {stop stop' : Stop} (h : Halts x d stop)
    (h' : Halts x d stop') : stop = stop' := by
  obtain ⟨_, h⟩ := h
  obtain ⟨_, h'⟩ := h'
  cases h.symm.trans h'
  rfl

theorem Settles.ok_iff {x : Session α} (hx : Settles looks x d) :
    (∃ a d', x d = .ok a d') ↔ looks = .ok () := by
  cases looks with
  | error stop =>
    obtain ⟨d₁, h⟩ := hx
    refine iff_of_false ?_ nofun
    rintro ⟨a, d₂, h'⟩
    cases h.symm.trans h'
  | ok _ =>
    obtain ⟨a, d₁, h, -⟩ := hx
    exact iff_of_true ⟨a, d₁, h⟩ rfl

theorem Settles.halts_iff {x : Session α} {stop : Stop} (hx : Settles looks x d) :
    Halts x d stop ↔ looks = .error stop := by
  cases looks with
  | error e =>
    constructor
    · intro h
      exact congrArg _ (Halts.unique hx h)
    · rintro ⟨⟩
      exact hx
  | ok _ =>
    obtain ⟨a, d₁, h, -⟩ := hx
    refine iff_of_false ?_ nofun
    rintro ⟨d₂, h'⟩
    cases h.symm.trans h'

end Session

/-! ### Looks -/

/-- A stop that a look makes: not of the storage, and not the report of a row that the
tables have turned down. -/
structure Stop.OfLook (stop : Stop) : Prop where
  storage : ¬stop.IsStorage
  user : stop ≠ .failure (.alreadyExists .user)
  item : stop ≠ .failure (.alreadyExists .item)

theorem ofLook_checkBytes {v : Value} : Except.Only Stop.OfLook (checkBytes v) := by
  intro stop h
  cases v <;> cases h
  exact ⟨nofun, nofun, nofun⟩

theorem ofLook_checkFits {ns : List Int} : Except.Only Stop.OfLook (checkFits ns) := by
  intro stop h
  obtain ⟨rfl, -⟩ := checkFits_eq_error.1 h
  exact ⟨nofun, nofun, nofun⟩

/-- What is refused before the storage is turned to is refused by a look. -/
theorem Input.Refusal.ofLook {args : List Value} {stop : Stop} (h : Refusal args stop) :
    stop.OfLook := by
  cases h <;> exact ⟨nofun, nofun, nofun⟩

/-- Stops with the first thing that is taken. -/
def firstTaken : List (Clash × Bool) → Except Stop Unit
  | [] => .ok ()
  | (clash, taken) :: rest => if taken then fail (.alreadyExists clash) else firstTaken rest

theorem firstTaken_eq_ok {wishes : List (Clash × Bool)} :
    firstTaken wishes = .ok () ↔ ∀ wish ∈ wishes, wish.2 = false := by
  induction wishes with
  | nil => simp [firstTaken]
  | cons wish wishes ih =>
    obtain ⟨clash, taken⟩ := wish
    unfold firstTaken
    rw [List.forall_mem_cons, ← ih]
    cases taken with
    | false => simp
    | true => exact iff_of_false nofun fun h => Bool.noConfusion h.1

theorem firstTaken_append {before after : List (Clash × Bool)} {clash : Clash}
    (hbefore : ∀ wish ∈ before, wish.2 = false) :
    firstTaken (before ++ (clash, true) :: after) = .error (.failure (.alreadyExists clash)) := by
  induction before with
  | nil => rfl
  | cons wish before ih =>
    obtain ⟨clash', taken⟩ := wish
    obtain ⟨hfirst, hrest⟩ := List.forall_mem_cons.1 hbefore
    obtain rfl : taken = false := hfirst
    exact ih hrest

/-- A guard that passes in a chain of looks. -/
theorem Except.guard_eq_ok {c : Prop} [Decidable c] {f : Failure}
    {rest : Unit → Except Stop Unit} {u : Unit} :
    (if c then fail f >>= rest else rest ()) = .ok u ↔ ¬c ∧ rest () = .ok u := by
  by_cases hc : c
  · rw [if_pos hc]
    exact iff_of_false nofun fun h => h.1 hc
  · rw [if_neg hc]
    exact (and_iff_right hc).symm

theorem Except.bind_done {x : Except Stop Unit} : (x >>= fun _ => .ok ()) = x := by
  cases x <;> rfl

/-! ### Fresh ids -/

/-- A desk whose next ids are not those of rows that exist; a registration takes two. -/
structure Desk.Fresh (d : Desk) : Prop where
  users : ∀ u ∈ d.store.users, u.id ≠ d.supply.nextRow.1
  items : ∀ i ∈ d.store.items, i.id ≠ d.supply.nextRow.1
  news : ∀ n ∈ d.store.news, n.id ≠ d.supply.nextRow.1
  stats : ∀ row ∈ d.store.stats, row.id ≠ d.supply.nextRow.2.nextRow.1

/-! ### Registrations -/

namespace Registry

variable {name email password : Value} {n e p : String}

theorem ensureFree_eq (hname : checkBytes name = .ok ()) (hemail : checkBytes email = .ok ()) :
    ensureFree s name email n e =
      firstTaken [(.userName, s.users.any (·.name == n)), (.userEmail, s.users.any (·.email == e))]
      := by
  unfold ensureFree
  rw [hname, hemail]
  cases s.users.any (·.name == n) <;> cases s.users.any (·.email == e) <;> rfl

theorem ofLook_ensureFree : Except.Only Stop.OfLook (ensureFree s name email n e) := by
  unfold ensureFree
  refine ofLook_checkBytes.bind fun _ _ => .guarded ⟨nofun, nofun, nofun⟩ ?_
  refine ofLook_checkBytes.bind fun _ _ => ?_
  split
  · exact .error ⟨nofun, nofun, nofun⟩
  · exact .ok

/-- Name and address are in use by nobody if the look at them passes. -/
theorem free_of_ensureFree (h : ensureFree s name email n e = .ok ()) :
    ∀ u ∈ s.users, u.name ≠ n ∧ u.email ≠ e := by
  obtain ⟨_, -, h⟩ := Except.bind_eq_ok.1 h
  obtain ⟨hnames, h⟩ := Except.guard_eq_ok.1 h
  obtain ⟨_, -, h⟩ := Except.bind_eq_ok.1 h
  intro u hu
  refine ⟨fun hname => hnames (List.any_eq_true.2 ⟨u, hu, beq_iff_eq.2 hname⟩), fun hemail => ?_⟩
  have hemails : s.users.any (·.email == e) = true :=
    List.any_eq_true.2 ⟨u, hu, beq_iff_eq.2 hemail⟩
  rw [if_pos hemails] at h
  cases h

/-- A registration is settled by the looks at the name and the address. -/
theorem settles_register (hd : d.Ready) (hm : m.fault = none) (hfresh : d.Fresh)
    (hname : Input.text name "name" (some Input.nameLimit) = .ok n)
    (hemail : Input.email email "email" = .ok e)
    (hpassword : Input.text password "password" none = .ok p) :
    Settles (ensureFree d.store name email n e >>= fun _ => checkBytes password)
      (register m name email password) d := by
  unfold register
  refine .passed hname (.passed hemail (.passed hpassword ?_))
  refine .reported hd ?_ (.afterStore hd (.after fun hfree => .last fun _ => .afterRowId ?_))
  · intro stop h
    exact (ofLook_ensureFree.bind (fun _ _ => ofLook_checkBytes) stop h).storage
  -- Both rows are accepted: what they hold is fresh, free or empty.
  have huser : d.store.insertUser (newcomer m.now d.supply.nextRow.1 n e p) = .ok _ :=
    Store.insertUser_eq_ok.2 ⟨by simp [newcomer, leastStored, greatestStored], fun u hu =>
      ⟨hfresh.users u hu, free_of_ensureFree hfree u hu⟩, ⟨Int.le_refl 0, Int.le_refl 0⟩, rfl⟩
  refine .afterRun (hd.holding _ _) huser (.afterFlush (hd.holding _ _) hm (.afterRowId ?_))
  have hstats : Store.insertStats
      { d.store with users := d.store.users ++ [newcomer m.now d.supply.nextRow.1 n e p] }
      { id := d.supply.nextRow.2.nextRow.1, userId := d.supply.nextRow.1 } = .ok _ :=
    Store.insertStats_eq_ok.2 ⟨by simp [Store.statsNumbers, leastStored, greatestStored],
      hfresh.stats, ⟨_, List.mem_append_right _ (.head _), rfl⟩, rfl⟩
  refine .afterRun (hd.holding _ _) hstats (.afterFlush (hd.holding _ _) hm ?_)
  exact settles_pure (hd.holding _ _)

end Registry

/-! ### Items -/

/-- An item is written whose numbers fit and whose name and image no other item has. -/
theorem Store.writeItem_ok {now : Instant} {i : Item}
    (hfits : ∀ n ∈ itemNumbers i, leastStored ≤ n ∧ n ≤ greatestStored)
    (hunique : ∀ j ∈ s.items, j.id ≠ i.id →
      (j.name, j.slot) ≠ (i.name, i.slot) ∧ j.imageId ≠ i.imageId) :
    ∃ s', s.writeItem now i = .ok s' := by
  unfold writeItem
  split
  · exact ⟨s, rfl⟩
  · split
    · exact ⟨s, rfl⟩
    · exact ⟨_, replaceItem_eq_ok.2 ⟨hfits, hunique, rfl⟩⟩

namespace Catalogue

variable {others : List Item} {givenName givenImage : Value} {name imageId : String} {slot : Int}

theorem ensureUnique_eq (hname : checkBytes givenName = .ok ())
    (himage : checkBytes givenImage = .ok ()) (hslot : fits slot = true) :
    ensureUnique others givenName givenImage name slot imageId =
      firstTaken [(.itemNameAndType, others.any fun j => j.name == name && j.slot == slot),
        (.itemImage, others.any (·.imageId == imageId))] := by
  have hfits : checkFits [slot] = .ok () := by
    unfold checkFits
    rw [List.all_cons, hslot]
    rfl
  unfold ensureUnique
  rw [hname, hfits, himage]
  cases others.any fun j => j.name == name && j.slot == slot <;>
    cases others.any (·.imageId == imageId) <;> rfl

theorem ofLook_ensureUnique :
    Except.Only Stop.OfLook (ensureUnique others givenName givenImage name slot imageId) := by
  unfold ensureUnique
  refine ofLook_checkBytes.bind fun _ _ => ofLook_checkFits.bind fun _ _ => ?_
  refine .guarded ⟨nofun, nofun, nofun⟩ (ofLook_checkBytes.bind fun _ _ => ?_)
  split
  · exact .error ⟨nofun, nofun, nofun⟩
  · exact .ok

/-- Name and image are those of no other item if the look at them passes, and a column can
hold the slot. -/
theorem free_of_ensureUnique
    (h : ensureUnique others givenName givenImage name slot imageId = .ok ()) :
    slot ≤ greatestStored ∧
      ∀ j ∈ others, (j.name, j.slot) ≠ (name, slot) ∧ j.imageId ≠ imageId := by
  obtain ⟨_, -, h⟩ := Except.bind_eq_ok.1 h
  obtain ⟨_, hfits, h⟩ := Except.bind_eq_ok.1 h
  obtain ⟨hnames, h⟩ := Except.guard_eq_ok.1 h
  obtain ⟨_, -, h⟩ := Except.bind_eq_ok.1 h
  refine ⟨(checkFits_eq_ok.1 hfits slot (.head _)).2,
    fun j hj => ⟨fun hname => ?_, fun himage => ?_⟩⟩
  · obtain ⟨hn, hk⟩ := Prod.mk.inj hname
    exact hnames (List.any_eq_true.2 ⟨j, hj, by simp [hn, hk]⟩)
  · have himages : others.any (·.imageId == imageId) = true :=
      List.any_eq_true.2 ⟨j, hj, beq_iff_eq.2 himage⟩
    rw [if_pos himages] at h
    cases h

/-- The creation of an item is settled by the looks at its name and slot and at its image. -/
theorem settles_create (hd : d.Ready) (hm : m.fault = none) (hfresh : d.Fresh) {draft : Draft}
    (hcheck : (Call.createItem draft).check = .ok ())
    (hname : Input.text draft.name "name" (some nameLimit) = .ok name)
    (hslot : Input.integer draft.slot "type" (some 0) none = .ok slot)
    (himage : Input.text draft.imageId "image_id" (some imageLimit) = .ok imageId) :
    Settles (ensureUnique d.store.items draft.name draft.imageId name slot imageId >>= fun _ =>
        checkBytes draft.description) (create m draft) d := by
  obtain ⟨_, -, hcheck⟩ := Except.bind_eq_ok.1 hcheck
  obtain ⟨_, -, hcheck⟩ := Except.bind_eq_ok.1 hcheck
  obtain ⟨_, -, hcheck⟩ := Except.bind_eq_ok.1 hcheck
  obtain ⟨description, hdescription, hcheck⟩ := Except.bind_eq_ok.1 hcheck
  obtain ⟨coins, hcoins, hcheck⟩ := Except.bind_eq_ok.1 hcheck
  obtain ⟨gems, hgems, hcheck⟩ := Except.bind_eq_ok.1 hcheck
  obtain ⟨saleCoins, hsaleCoins, hcheck⟩ := Except.bind_eq_ok.1 hcheck
  obtain ⟨saleGems, hsaleGems, -⟩ := Except.bind_eq_ok.1 hcheck
  unfold create
  refine .passed hname (.passed hslot (.passed himage (.passed hdescription ?_)))
  refine .passed hcoins (.passed hgems (.passed hsaleCoins (.passed hsaleGems ?_)))
  refine .reported hd ?_ (.afterStore hd (.after fun hunique => .afterRowId (.last fun _ => ?_)))
  · intro stop h
    exact (ofLook_ensureUnique.bind (fun _ _ => ofLook_checkBytes) stop h).storage
  obtain ⟨hlimit, hfree⟩ := free_of_ensureUnique hunique
  have hnumbers : ∀ n ∈ [slot, coins, gems, saleCoins, saleGems], fits n = true := by
    simp only [List.forall_mem_cons]
    exact ⟨fits_of_bounds ((Input.integer_eq_ok.1 hslot).2.1 0 rfl) hlimit,
      (isPrice_of_amount hcoins).fits, (isPrice_of_amount hgems).fits,
      (isPrice_of_amount hsaleCoins).fits, (isPrice_of_amount hsaleGems).fits,
      List.forall_mem_nil _⟩
  have hinsert := Store.insertItem_eq_ok (s := d.store)
    (i := { id := d.supply.nextRow.1, name, description := description.getD "", slot, imageId,
            base := ⟨coins, gems⟩, onSale := draft.onSale.holds, sale := ⟨saleCoins, saleGems⟩,
            createdAt := m.now, updatedAt := m.now }).2
    ⟨fun n hn => by simpa [fits] using hnumbers n hn,
      fun j hj => ⟨hfresh.items j hj, hfree j hj⟩, rfl⟩
  refine .afterRun (hd.holding _ _) hinsert (.afterFlush (hd.holding _ _) hm ?_)
  exact settles_pure (hd.holding _ _)

/-- The change of an item that is there is settled by the looks at what it would have in
common with the other items. -/
theorem settles_update (hd : d.Ready) (hm : m.fault = none) (hdomain : d.store.InDomain)
    {id : Value} {change : Change} {k : String} {merge : Merge} {item : Item}
    (hid : Input.Names id "id" k) (hmerge : change.check = .ok merge)
    (hitem : d.store.item? k = some item) :
    Settles (ensureUnique (d.store.items.filter (·.id != k)) change.name change.imageId
        (merge.apply item).name (merge.apply item).slot (merge.apply item).imageId >>= fun _ =>
        checkBytes change.description) (update m id change) d := by
  unfold update
  refine .passed hid.check (.passed hmerge (.reported hd ?_ (.afterStoreFor hd hid.bytes ?_)))
  · intro stop h
    exact (ofLook_ensureUnique.bind (fun _ _ => ofLook_checkBytes) stop h).storage
  rw [hitem]
  refine .afterStore hd (.after fun hunique => .last fun _ => ?_)
  obtain ⟨hlimit, hfree⟩ := free_of_ensureUnique hunique
  have hmerged : (merge.apply item).InDomain := (Change.inDomain_of_check hmerge).apply
    (hdomain.items item (Store.mem_of_item? hitem)) hlimit
  have hkey : item.id = k := beq_iff_eq.1 (List.find?_some (p := fun i : Item => i.id == k) hitem)
  obtain ⟨s', hwrite⟩ : ∃ s', d.store.writeItem m.now (merge.apply item) = .ok s' :=
    Store.writeItem_ok (fun n hn => by simpa [fits] using fits_itemNumbers hmerged n hn)
      fun j hj hne => hfree j (List.mem_filter.2 ⟨hj, bne_iff_ne.2 (hkey ▸ hne)⟩)
  refine .afterRun hd hwrite (.afterFlush (hd.holding _ _) hm ?_)
  exact .afterStore (hd.holding _ _) (settles_pure (hd.holding _ _))

/-- The change of an item that is not there. -/
theorem halts_update_missing (hd : d.Ready) {id : Value} {change : Change} {k : String}
    {merge : Merge} (hid : Input.Names id "id" k) (hmerge : change.check = .ok merge)
    (hitem : d.store.item? k = none) :
    Halts (update m id change) d (.failure (.notFound "Item" (.text k))) := by
  unfold update
  refine .passed hid.check (.passed hmerge ?_)
  refine .reported hd.calm (.afterStoreFor hd hid.bytes ?_) nofun
  rw [hitem]
  exact ⟨d, rfl⟩

/-- The change of an item whose id has no bytes. -/
theorem halts_update_unread (hd : d.Ready) {id : Value} {change : Change} {k : String}
    {merge : Merge} {stop : Stop} (hid : Input.identifier id "id" = .ok k)
    (hmerge : change.check = .ok merge) (hbytes : checkBytes id = .error stop) :
    Halts (update m id change) d stop :=
  .passed hid (.passed hmerge
    (.reported hd.calm (.atStoreFor hd hbytes) (ofLook_checkBytes stop hbytes).storage))

end Catalogue

/-! ### Announcements -/

namespace Bulletin

variable {others : List News} {given id title text link : Value} {t : String}

theorem ensureFree_eq (hgiven : checkBytes given = .ok ()) :
    ensureFree others given t = firstTaken [(.newsTitle, others.any (·.title == t))] := by
  unfold ensureFree
  rw [hgiven]
  cases others.any (·.title == t) <;> rfl

theorem ofLook_ensureFree : Except.Only Stop.OfLook (ensureFree others given t) := by
  unfold ensureFree
  refine ofLook_checkBytes.bind fun _ _ => ?_
  split
  · exact .error ⟨nofun, nofun, nofun⟩
  · exact .ok

theorem free_of_ensureFree (h : ensureFree others given t = .ok ()) :
    ∀ n ∈ others, n.title ≠ t := by
  obtain ⟨_, -, h⟩ := Except.bind_eq_ok.1 h
  intro n hn htitle
  have htitles : others.any (·.title == t) = true :=
    List.any_eq_true.2 ⟨n, hn, beq_iff_eq.2 htitle⟩
  rw [if_pos htitles] at h
  cases h

/-- A new announcement is settled by the look at its title. -/
theorem settles_create (hd : d.Ready) (hm : m.fault = none) (hfresh : d.Fresh)
    (hcheck : (Call.createNews title text link).check = .ok ())
    (htitle : Input.text title "title" (some Input.titleLimit) = .ok t) :
    Settles (ensureFree d.store.news title t >>= fun _ => checkBytes text >>= fun _ =>
        checkBytes link) (create m title text link) d := by
  obtain ⟨_, -, hcheck⟩ := Except.bind_eq_ok.1 hcheck
  obtain ⟨description, hdescription, hcheck⟩ := Except.bind_eq_ok.1 hcheck
  obtain ⟨image, hlink, -⟩ := Except.bind_eq_ok.1 hcheck
  unfold create
  refine .passed htitle (.passed hdescription (.passed hlink ?_))
  refine .reported hd ?_ (.afterStore hd (.after fun hfree => .afterRowId (.after fun _ =>
    .last fun _ => ?_)))
  · intro stop h
    exact (ofLook_ensureFree.bind (fun _ _ => ofLook_checkBytes.bind fun _ _ => ofLook_checkBytes)
      stop h).storage
  have hinsert := Store.insertNews_eq_ok (s := d.store)
    (n := { id := d.supply.nextRow.1, title := t, description := description.getD "",
            imageLink := image.getD "", createdAt := m.now }).2
    ⟨fun n hn => ⟨hfresh.news n hn, free_of_ensureFree hfree n hn⟩, rfl⟩
  refine .afterRun (hd.holding _ _) hinsert (.afterFlush (hd.holding _ _) hm ?_)
  exact settles_pure (hd.holding _ _)

/-- A look at a new title, if there is one. -/
def lookAtTitle (s : Store) (k : String) (given : Value) (newTitle : Option String) :
    Except Stop Unit :=
  match newTitle with
  | none => .ok ()
  | some t => ensureFree (s.news.filter (·.id != k)) given t

/-- A title that is not given is free, since the old one is. -/
theorem lookAtTitle_eq {k : String} (newTitle : Option String) {news : News} (hs : s.Sound)
    (hgiven : checkBytes given = .ok ()) (hnews : s.news? k = some news) :
    lookAtTitle s k given newTitle = firstTaken
      [(.newsTitle, s.news.any fun n => n.id != k && n.title == newTitle.getD news.title)] := by
  cases newTitle with
  | some t =>
    unfold lookAtTitle
    dsimp only
    rw [ensureFree_eq hgiven, List.any_filter]
    rfl
  | none =>
    obtain ⟨hmem, hkey⟩ := (Rows.find?_eq_some_iff hs.newsIds fun _ => beq_iff_eq).1 hnews
    have hfree : (s.news.any fun n => n.id != k && n.title == news.title) = false := by
      rw [List.any_eq_false]
      intro n hn htaken
      obtain ⟨hne, htitle⟩ := Bool.and_eq_true_iff.1 htaken
      have hsame : n = news := Rows.eq_of_key hs.newsTitles hn hmem (beq_iff_eq.1 htitle)
      exact bne_iff_ne.1 hne (hsame ▸ hkey)
    exact (firstTaken_eq_ok.2 (List.forall_mem_singleton.2 hfree)).symm

theorem ofLook_lookAtTitle {k : String} {newTitle : Option String} :
    Except.Only Stop.OfLook (lookAtTitle s k given newTitle) := by
  unfold lookAtTitle
  split
  · exact .ok
  · exact ofLook_ensureFree

/-- An announcement is written if no other one has its title. -/
theorem settles_write (hd : d.Ready) (hm : m.fault = none) {merged : News}
    (hfree : ∀ n ∈ d.store.news, n.id ≠ merged.id → n.title ≠ merged.title) :
    Settles (checkBytes text >>= fun _ => checkBytes link) (do
      checkBytes text
      checkBytes link
      run (·.writeNews merged)
      flush m .news
      return merged) d := by
  have hwrite := Store.writeNews_eq_ok.2 ⟨hfree, rfl⟩
  refine .after fun _ => .last fun _ => .afterRun hd hwrite (.afterFlush (hd.holding _ _) hm ?_)
  exact settles_pure (hd.holding _ _)

/-- The change of an announcement that is there is settled by the look at its new title. -/
theorem settles_update (hd : d.Ready) (hm : m.fault = none) (hs : d.store.Sound) {k : String}
    {newTitle : Option String} {news : News}
    (hcheck : (Call.updateNews id title text link).check = .ok ())
    (hid : Input.Names id "id" k)
    (htitle : Input.optionalText title "title" (some Input.titleLimit) = .ok newTitle)
    (hnews : d.store.news? k = some news) :
    Settles (lookAtTitle d.store k title newTitle >>= fun _ => checkBytes text >>= fun _ =>
        checkBytes link) (update m id title text link) d := by
  obtain ⟨_, -, hcheck⟩ := Except.bind_eq_ok.1 hcheck
  obtain ⟨_, -, hcheck⟩ := Except.bind_eq_ok.1 hcheck
  obtain ⟨description, hdescription, hcheck⟩ := Except.bind_eq_ok.1 hcheck
  obtain ⟨image, hlink, -⟩ := Except.bind_eq_ok.1 hcheck
  obtain ⟨hmem, hkey⟩ := (Rows.find?_eq_some_iff hs.newsIds fun _ => beq_iff_eq).1 hnews
  unfold update
  refine .passed hid.check (.passed htitle (.passed hdescription (.passed hlink ?_)))
  refine .reported hd ?_ (.afterStoreFor hd hid.bytes ?_)
  · intro stop h
    exact (ofLook_lookAtTitle.bind (fun _ _ => ofLook_checkBytes.bind fun _ _ => ofLook_checkBytes)
      stop h).storage
  rw [hnews]
  cases newTitle with
  | none =>
    refine settles_write hd hm fun n hn hne htitle => hne ?_
    have hsame : n = news := Rows.eq_of_key hs.newsTitles hn hmem htitle
    rw [hsame]
  | some t =>
    refine .afterStore hd (.after fun hfree => settles_write hd hm fun n hn hne => ?_)
    exact free_of_ensureFree hfree n (List.mem_filter.2 ⟨hn, bne_iff_ne.2 (hkey ▸ hne)⟩)

end Bulletin

/-! ### What a call asks for -/

/-- What a call asks to have for a row of its own, in the order in which it is looked at,
and whether another row has it.  The calls are those that write a unique column: a
registration, the creation and the change of an item, the creation and the change of an
announcement, where what is changed is there and a column can hold the slot. -/
inductive Call.Asks (s : Store) : Call → List (Clash × Bool) → Prop
  | register {name email password : Value} {n e : String}
      (hname : Input.text name "name" (some Input.nameLimit) = .ok n)
      (hemail : Input.email email "email" = .ok e) :
      Asks s (.register name email password)
        [(.userName, s.users.any fun u => u.name == n),
          (.userEmail, s.users.any fun u => u.email == e)]
  | createItem {draft : Catalogue.Draft} {name imageId : String} {slot : Int}
      (hname : Input.text draft.name "name" (some Catalogue.nameLimit) = .ok name)
      (hslot : Input.integer draft.slot "type" (some 0) none = .ok slot)
      (himage : Input.text draft.imageId "image_id" (some Catalogue.imageLimit) = .ok imageId)
      (hlimit : slot ≤ greatestStored) :
      Asks s (.createItem draft)
        [(.itemNameAndType, s.items.any fun j => j.name == name && j.slot == slot),
          (.itemImage, s.items.any fun j => j.imageId == imageId)]
  | updateItem {id : Value} {change : Catalogue.Change} {k : String} {merge : Catalogue.Merge}
      {item : Item} (hid : Input.identifier id "id" = .ok k) (hmerge : change.check = .ok merge)
      (hitem : s.item? k = some item) (hlimit : merge.slot ≤ greatestStored) :
      Asks s (.updateItem id change)
        [(.itemNameAndType, s.items.any fun j => j.id != k &&
            (j.name == (merge.apply item).name && j.slot == (merge.apply item).slot)),
          (.itemImage, s.items.any fun j => j.id != k &&
            j.imageId == (merge.apply item).imageId)]
  | createNews {title text link : Value} {t : String}
      (htitle : Input.text title "title" (some Input.titleLimit) = .ok t) :
      Asks s (.createNews title text link) [(.newsTitle, s.news.any fun n => n.title == t)]
  | updateNews {id title text link : Value} {k : String} {newTitle : Option String} {news : News}
      (hid : Input.identifier id "id" = .ok k)
      (htitle : Input.optionalText title "title" (some Input.titleLimit) = .ok newTitle)
      (hnews : s.news? k = some news) :
      Asks s (.updateNews id title text link)
        [(.newsTitle, s.news.any fun n => n.id != k && n.title == newTitle.getD news.title)]

/-- **A call is settled by the first thing that is taken.** -/
theorem Call.Asks.settles (service : Service) {call : Call} {wishes : List (Clash × Bool)}
    (hasks : call.Asks d.store wishes) (hd : d.Ready) (hm : m.fault = none) (hfresh : d.Fresh)
    (hs : d.store.Sound) (hdomain : d.store.InDomain) (hwhole : call.Whole)
    (hcheck : call.check = .ok ()) : Settles (firstTaken wishes) (service.perform m call) d := by
  cases hasks with
  | @register name email password n e hname hemail =>
    obtain ⟨_, -, hrest⟩ := Except.bind_eq_ok.1 hcheck
    obtain ⟨_, -, hrest⟩ := Except.bind_eq_ok.1 hrest
    obtain ⟨p, hpassword, -⟩ := Except.bind_eq_ok.1 hrest
    have h := Registry.settles_register hd hm hfresh hname hemail hpassword
    rw [Registry.ensureFree_eq (hwhole.checkBytes name (by simp [arguments]))
      (hwhole.checkBytes email (by simp [arguments])),
      hwhole.checkBytes password (by simp [arguments]), Except.bind_done] at h
    exact h.answer _
  | @createItem draft name imageId slot hname hslot himage hlimit =>
    have h := Catalogue.settles_create hd hm hfresh hcheck hname hslot himage
    rw [Catalogue.ensureUnique_eq (hwhole.checkBytes draft.name (by simp [arguments]))
      (hwhole.checkBytes draft.imageId (by simp [arguments]))
      (fits_of_bounds ((Input.integer_eq_ok.1 hslot).2.1 0 rfl) hlimit),
      hwhole.checkBytes draft.description (by simp [arguments]), Except.bind_done] at h
    exact h.answer _
  | @updateItem id change k merge item hid hmerge hitem hlimit =>
    have hidBytes := hwhole.checkBytes id (by simp [arguments])
    have h := Catalogue.settles_update hd hm hdomain ⟨hid, hidBytes⟩ hmerge hitem
    have hbefore := (hdomain.items item (Store.mem_of_item? hitem)).slot
    have hmerged := (Catalogue.Change.inDomain_of_check hmerge).slot
    have hslot : fits (merge.apply item).slot = true := fits_of_bounds
      (Catalogue.orNumber_cases (P := (0 ≤ ·)) hmerged hbefore.1)
      (Catalogue.orNumber_cases (P := (· ≤ greatestStored)) hlimit hbefore.2)
    rw [Catalogue.ensureUnique_eq (hwhole.checkBytes change.name (by simp [arguments]))
      (hwhole.checkBytes change.imageId (by simp [arguments])) hslot,
      hwhole.checkBytes change.description (by simp [arguments]), Except.bind_done,
      List.any_filter, List.any_filter] at h
    exact h.answer _
  | @createNews title text link t htitle =>
    have h := Bulletin.settles_create hd hm hfresh hcheck htitle
    rw [Bulletin.ensureFree_eq (hwhole.checkBytes title (by simp [arguments])),
      hwhole.checkBytes text (by simp [arguments]), hwhole.checkBytes link (by simp [arguments]),
      Except.bind_done, Except.bind_done] at h
    exact h.answer _
  | @updateNews id title text link k newTitle news hid htitle hnews =>
    have hidBytes := hwhole.checkBytes id (by simp [arguments])
    have h := Bulletin.settles_update hd hm hs hcheck ⟨hid, hidBytes⟩ htitle hnews
    have hlook := Bulletin.lookAtTitle_eq newTitle hs
      (hwhole.checkBytes title (by simp [arguments])) hnews
    rw [hlook, hwhole.checkBytes text (by simp [arguments]),
      hwhole.checkBytes link (by simp [arguments]), Except.bind_done, Except.bind_done] at h
    exact h.answer _

/-! ### Rows that the tables turn down -/

section Unseen

variable {service : Service}

theorem Session.Settles.ofLook {α : Type} {looks : Except Stop Unit} {x : Session α}
    (hx : Settles looks x d) (hlooks : Except.Only Stop.OfLook looks) :
    ∀ stop, Halts x d stop → stop.OfLook := fun stop h => hlooks stop (hx.halts_iff.1 h)

/-- Arguments that are refused are refused by a look; it is the work on checked arguments
that matters. -/
theorem Service.ofLook_perform {call : Call}
    (hok : call.check = .ok () → ∀ stop, Halts (service.perform m call) d stop → stop.OfLook) :
    ∀ stop, Halts (service.perform m call) d stop → stop.OfLook := by
  intro stop h
  cases hcheck : call.check with
  | ok _ => exact hok hcheck stop h
  | error e =>
    obtain rfl : e = stop := Halts.unique ⟨d, service.begins_perform m call d e hcheck⟩ h
    exact (call.complains_check e hcheck).ofLook

theorem Service.ofLook_register (hd : d.Ready) (hm : m.fault = none) (hfresh : d.Fresh)
    (name email password : Value) :
    ∀ stop, Halts (service.perform m (.register name email password)) d stop → stop.OfLook := by
  refine ofLook_perform fun hcheck => ?_
  obtain ⟨n, hname, hrest⟩ := Except.bind_eq_ok.1 hcheck
  obtain ⟨e, hemail, hrest⟩ := Except.bind_eq_ok.1 hrest
  obtain ⟨p, hpassword, -⟩ := Except.bind_eq_ok.1 hrest
  exact ((Registry.settles_register hd hm hfresh hname hemail hpassword).answer _).ofLook
    (Registry.ofLook_ensureFree.bind fun _ _ => ofLook_checkBytes)

theorem Service.ofLook_createItem (hd : d.Ready) (hm : m.fault = none) (hfresh : d.Fresh)
    (draft : Catalogue.Draft) :
    ∀ stop, Halts (service.perform m (.createItem draft)) d stop → stop.OfLook := by
  refine ofLook_perform fun hcheck => ?_
  obtain ⟨name, hname, hrest⟩ := Except.bind_eq_ok.1 hcheck
  obtain ⟨slot, hslot, hrest⟩ := Except.bind_eq_ok.1 hrest
  obtain ⟨imageId, himage, -⟩ := Except.bind_eq_ok.1 hrest
  exact ((Catalogue.settles_create hd hm hfresh hcheck hname hslot himage).answer _).ofLook
    (Catalogue.ofLook_ensureUnique.bind fun _ _ => ofLook_checkBytes)

theorem Service.ofLook_updateItem (hd : d.Ready) (hm : m.fault = none)
    (hdomain : d.store.InDomain) (id : Value) (change : Catalogue.Change) :
    ∀ stop, Halts (service.perform m (.updateItem id change)) d stop → stop.OfLook := by
  refine ofLook_perform fun hcheck => ?_
  obtain ⟨k, hid, hrest⟩ := Except.bind_eq_ok.1 hcheck
  obtain ⟨merge, hmerge, -⟩ := Except.bind_eq_ok.1 hrest
  cases hbytes : checkBytes id with
  | error torn =>
    intro stop h
    obtain rfl := Halts.unique (Catalogue.halts_update_unread hd hid hmerge hbytes).first h
    exact ofLook_checkBytes _ hbytes
  | ok _ =>
    have hnames : Input.Names id "id" k := ⟨hid, hbytes⟩
    cases hitem : d.store.item? k with
    | none =>
      intro stop h
      obtain rfl := Halts.unique (Catalogue.halts_update_missing hd hnames hmerge hitem).first h
      exact ⟨nofun, nofun, nofun⟩
    | some item =>
      exact ((Catalogue.settles_update hd hm hdomain hnames hmerge hitem).answer _).ofLook
        (Catalogue.ofLook_ensureUnique.bind fun _ _ => ofLook_checkBytes)

end Unseen

/-- **What is looked at before a row is written is what the tables would turn down.**  At
every store that a run from empty tables reaches, with fresh ids and arguments that are in
order, a call that asks for something of its own gives a result if and only if none of it
is taken, and else reports the first thing that is.  The failures for a user or an item
that the tables have turned down are not reported, whatever the arguments are. -/
theorem unique_iff_vacant {service : Service} {desk : Desk} {steps : List Step}
    (hstore : d.store = (service.run { desk with store := {} } steps).store) (hd : d.Ready)
    (hm : m.fault = none) (hfresh : d.Fresh) :
    (∀ call wishes, call.Whole → call.check = .ok () → call.Asks d.store wishes →
      ((∃ answer d', service.perform m call d = .ok answer d') ↔
        ∀ wish ∈ wishes, wish.2 = false) ∧
      ∀ before clash after, wishes = before ++ (clash, true) :: after →
        (∀ wish ∈ before, wish.2 = false) →
          Halts (service.perform m call) d (.failure (.alreadyExists clash))) ∧
    (∀ name email password, ¬Halts (service.perform m (.register name email password)) d
      (.failure (.alreadyExists .user))) ∧
    (∀ draft, ¬Halts (service.perform m (.createItem draft)) d
      (.failure (.alreadyExists .item))) ∧
    ∀ id change, ¬Halts (service.perform m (.updateItem id change)) d
      (.failure (.alreadyExists .item)) := by
  have hs : d.store.Sound := hstore ▸ (service.chronicle _ steps).sound .empty
  have hdomain : d.store.InDomain :=
    hstore ▸ (service.chronicle { desk with store := {} } steps).inDomain
  refine ⟨fun call wishes hwhole hcheck hasks => ?_, ?_, ?_, ?_⟩
  · have hsettles := hasks.settles service hd hm hfresh hs hdomain hwhole hcheck
    refine ⟨hsettles.ok_iff.trans firstTaken_eq_ok, ?_⟩
    rintro before clash after rfl hbefore
    exact hsettles.halts_iff.2 (firstTaken_append hbefore)
  · intro name email password h
    exact (Service.ofLook_register hd hm hfresh name email password _ h).user rfl
  · intro draft h
    exact (Service.ofLook_createItem hd hm hfresh draft _ h).item rfl
  · intro id change h
    exact (Service.ofLook_updateItem hd hm hdomain id change _ h).item rfl

namespace Roster

/-- A user registers and an item is added. -/
def steps : List Step := Savings.steps.take 2

/-- The user. -/
def ada : User := { Savings.ada with coins := 0 }

/-- The desk after that, with numbered ids to come. -/
def desk : Desk :=
  { store :=
      { users := [ada], items := [Savings.hat], stats := [{ id := "stats", userId := "ada" }] } }

theorem run_steps :
    desk.store = (Savings.service.run { Savings.desk with store := {} } steps).store :=
  .symm (congrArg (·.store) (Savings.service.run_ada Savings.noon.now "ada" "stats" ["hat"] _))

theorem fresh : desk.Fresh where
  users := by decide
  items := by decide
  news := by decide
  stats := by decide

end Roster

open Roster in
/-- A second user of the name is refused, and a second item of the name is not, in another
slot and with another image. -/
theorem unique_iff_vacant_roster :
    Halts (Savings.service.perform Savings.noon
        (.register (.text " ada ") (.text "a@b.c") (.text "pw"))) desk
      (.failure (.alreadyExists .userName)) ∧
    ∃ answer d', Savings.service.perform Savings.noon
        (.createItem { name := .text "hat", slot := .int 2, imageId := .text "q" }) desk =
      .ok answer d' := by
  obtain ⟨hasks, -⟩ := unique_iff_vacant (m := Savings.noon) run_steps ⟨rfl, rfl, rfl⟩ rfl fresh
  constructor
  · refine (hasks _ _ ?_ rfl (.register rfl rfl)).2 [] .userName _ rfl (List.forall_mem_nil _)
    simp [Call.Whole, Call.arguments]
  · refine (hasks _ _ ?_ rfl (.createItem rfl rfl rfl (by decide))).1.2 (by decide)
    simp [Call.Whole, Call.arguments]

end Guildhall
