/-
Guildhall/Proofs/Timestamps.lean

The two times of a row.  Users and items carry the time at which they were added and the
time of their last change.  Both tables are stamped in one way (`Stamping`), so what follows
is said once for any of them.  Over a single event a row is kept, added, changed or removed
(`Stamps`); over a run from empty tables

    createdAt  =  the time of the last event that added the row
    updatedAt  =  the time of the last event that added it or changed another column of it

and if the clock is never set back, `createdAt ≤ updatedAt ≤ now`.  Calls that stop, free
purchases, grants of nothing, items thrown away that are worth nothing and updates that say
what is there already (`Call.IsIdle`) change no row.

Main statements: `Deed.stamps_users`, `Deed.stamps_items`, `Deed.same_of_idle`,
`Chronicle.timestamps` and `rows_timestamped`.
-/
import Guildhall.Proofs.Integrity
import Guildhall.Proofs.Ledger

namespace Guildhall

/-! ### Stamped tables -/

/-- A table whose rows carry the time at which they were added and the time of their last
change; `stamp` sets the second one and nothing else. -/
structure Stamping (α : Type) where
  rows : Store → List α
  id : α → String
  createdAt : α → Instant
  updatedAt : α → Instant
  stamp : Instant → α → α
  id_stamp : ∀ time row, id (stamp time row) = id row
  createdAt_stamp : ∀ time row, createdAt (stamp time row) = createdAt row
  updatedAt_stamp : ∀ time row, updatedAt (stamp time row) = time
  stamp_stamp : ∀ time time' row, stamp time (stamp time' row) = stamp time row
  stamp_updatedAt : ∀ row, stamp (updatedAt row) row = row

/-- The table of the users. -/
def userStamping : Stamping User where
  rows s := s.users
  id u := u.id
  createdAt u := u.createdAt
  updatedAt u := u.updatedAt
  stamp time u := { u with updatedAt := time }
  id_stamp _ _ := rfl
  createdAt_stamp _ _ := rfl
  updatedAt_stamp _ _ := rfl
  stamp_stamp _ _ _ := rfl
  stamp_updatedAt _ := rfl

/-- The table of the items. -/
def itemStamping : Stamping Item where
  rows s := s.items
  id i := i.id
  createdAt i := i.createdAt
  updatedAt i := i.updatedAt
  stamp time i := { i with updatedAt := time }
  id_stamp _ _ := rfl
  createdAt_stamp _ _ := rfl
  updatedAt_stamp _ _ := rfl
  stamp_stamp _ _ _ := rfl
  stamp_updatedAt _ := rfl

namespace Stamping

variable {α : Type} (t : Stamping α)

/-- The row of an id. -/
def find (s : Store) (id : String) : Option α := (t.rows s).find? (t.id · == id)

/-- Two rows that agree in all columns but the time of the last change. -/
def Agrees (old new : α) : Prop := t.stamp (t.updatedAt old) new = old

/-- An event that adds the row of an id. -/
def Adds (id : String) (e : Event) : Prop :=
  e.answer.isSome = true ∧ t.find e.before id = none ∧ (t.find e.after id).isSome = true

/-- An event that adds the row of an id, or changes another column of it than the time of
the last change. -/
def Changes (id : String) (e : Event) : Prop :=
  e.answer.isSome = true ∧
    ∃ new, t.find e.after id = some new ∧ ∀ old ∈ t.find e.before id, ¬t.Agrees old new

/-- What becomes of the row of an id at a time. -/
inductive Stamps (now : Instant) : Option α → Option α → Prop
  | kept (row? : Option α) : Stamps now row? row?
  | added {row : α} (hcreated : t.createdAt row = now) (hupdated : t.updatedAt row = now) :
      Stamps now none (some row)
  | changed {old new : α} (hcreated : t.createdAt new = t.createdAt old)
      (hupdated : t.updatedAt new = now) (hdiffers : ¬t.Agrees old new) :
      Stamps now (some old) (some new)
  | removed {row : α} : Stamps now (some row) none

variable {t} {now : Instant} {l : List α} {row old new : α}

/-! ### Rows of a list -/

theorem Stamps.append (row : α) (hnew : ∀ row' ∈ l, t.id row' ≠ t.id row)
    (hcreated : t.createdAt row = now) (hupdated : t.updatedAt row = now) (id : String) :
    t.Stamps now (l.find? (t.id · == id)) ((l ++ [row]).find? (t.id · == id)) := by
  rw [List.find?_append]
  by_cases hid : t.id row = id
  · have hnone : l.find? (t.id · == id) = none := by
      refine List.find?_eq_none.2 fun row' hmem hkey => ?_
      exact hnew row' hmem ((beq_iff_eq.1 hkey).trans hid.symm)
    have hrow : [row].find? (t.id · == id) = some row := by simp [hid]
    rw [hnone, Option.none_or, hrow]
    exact .added hcreated hupdated
  · have hrow : [row].find? (t.id · == id) = none := by simp [hid]
    rw [hrow, Option.or_none]
    exact .kept _

theorem Stamps.filter (key id : String) :
    t.Stamps now (l.find? (t.id · == id))
      ((l.filter (t.id · != key)).find? (t.id · == id)) := by
  by_cases hid : id = key
  · have hnone : (l.filter (t.id · != key)).find? (t.id · == id) = none := by
      refine List.find?_eq_none.2 fun row hmem hkey => ?_
      exact bne_iff_ne.1 (List.mem_filter.1 hmem).2 ((beq_iff_eq.1 hkey).trans hid)
    rw [hnone]
    cases l.find? (t.id · == id) with
    | none => exact .kept none
    | some row => exact .removed
  · have hsame : (l.filter (t.id · != key)).find? (t.id · == id) = l.find? (t.id · == id) := by
      rw [List.find?_filter]
      congr 1
      funext row
      by_cases hrow : t.id row = id
      · simp [hrow, hid]
      · simp [hrow]
    rw [hsame]
    exact .kept _

/-- A row that is written in the place of an old one: it is the old one, or another column
is different and the time of the last change is now. -/
inductive Rewrites (t : Stamping α) (now : Instant) (old : α) : α → Prop
  | same : Rewrites t now old old
  | changed {new : α} (hid : t.id new = t.id old) (hcreated : t.createdAt new = t.createdAt old)
      (hupdated : t.updatedAt new = now) (hdiffers : ¬t.Agrees old new) : Rewrites t now old new

theorem Stamps.put (hids : (l.map t.id).Nodup) (hold : old ∈ l) (h : t.Rewrites now old new)
    (id : String) :
    t.Stamps now (l.find? (t.id · == id)) ((Rows.put t.id new l).find? (t.id · == id)) := by
  cases h with
  | same =>
    rw [Rows.put_of_mem hids hold]
    exact .kept _
  | changed hid hcreated hupdated hdiffers =>
    rw [Rows.find?_put fun _ => beq_iff_eq]
    by_cases hkey : t.id new = id
    · have hfind : l.find? (t.id · == id) = some old :=
        Rows.find?_of_mem hids (fun _ => beq_iff_eq) hold (hid.symm.trans hkey)
      rw [if_pos hkey, hfind]
      exact .changed hcreated hupdated hdiffers
    · rw [if_neg hkey]
      exact .kept _

theorem Stamps.of_rows_eq {s s' : Store} (h : t.rows s' = t.rows s) (id : String) :
    t.Stamps now (t.find s id) (t.find s' id) := by
  unfold find
  rw [h]
  exact .kept _

end Stamping

/-! ### Deeds -/

section Deeds

open Store Stamping

variable {m : Moment} {call : Call} {answer : Answer} {s s' : Store} {now : Instant}

/-- A user is written with another time only if another column changes. -/
theorem Store.rewrites_of_writeUser {old u : User} (hs : s.Sound) (hold : old ∈ s.users)
    (h : s.writeUser now u = .ok s') (hid : u.id = old.id)
    (hcreated : u.createdAt = old.createdAt) :
    ∃ row, userStamping.Rewrites now old row ∧
      s' = { s with users := Rows.put (·.id) row s.users } := by
  unfold writeUser at h
  rw [(user?_eq_some_iff hs.userIds).2 ⟨hold, hid.symm⟩] at h
  dsimp only at h
  by_cases hsame : { u with updatedAt := old.updatedAt } = old
  · rw [if_pos hsame] at h
    cases h
    exact ⟨old, .same, by rw [Rows.put_of_mem hs.userIds hold]⟩
  · rw [if_neg hsame] at h
    exact ⟨{ u with updatedAt := now }, .changed hid hcreated rfl hsame,
      (replaceUser_eq_ok.1 h).2.2.2⟩

/-- An item is written with another time only if another column changes. -/
theorem Store.rewrites_of_writeItem {old i : Item} (hs : s.Sound) (hold : old ∈ s.items)
    (h : s.writeItem now i = .ok s') (hid : i.id = old.id)
    (hcreated : i.createdAt = old.createdAt) :
    ∃ row, itemStamping.Rewrites now old row ∧
      s' = { s with items := Rows.put (·.id) row s.items } := by
  unfold writeItem at h
  rw [(item?_eq_some_iff hs.itemIds).2 ⟨hold, hid.symm⟩] at h
  dsimp only at h
  by_cases hsame : { i with updatedAt := old.updatedAt } = old
  · rw [if_pos hsame] at h
    cases h
    exact ⟨old, .same, by rw [Rows.put_of_mem hs.itemIds hold]⟩
  · rw [if_neg hsame] at h
    exact ⟨{ i with updatedAt := now }, .changed hid hcreated rfl hsame,
      (replaceItem_eq_ok.1 h).2.2⟩

theorem Store.stamps_of_writeUser {old u : User} (hs : s.Sound) (hold : old ∈ s.users)
    (h : s.writeUser now u = .ok s') (hid : u.id = old.id) (hcreated : u.createdAt = old.createdAt)
    (id : String) : userStamping.Stamps now (userStamping.find s id) (userStamping.find s' id) := by
  obtain ⟨row, hrow, rfl⟩ := rewrites_of_writeUser hs hold h hid hcreated
  exact .put hs.userIds hold hrow id

/-- **What a deed does to the row of every user.** -/
theorem Deed.stamps_users (hdeed : Deed m s call answer s') (hs : s.Sound) (id : String) :
    userStamping.Stamps m.now (userStamping.find s id) (userStamping.find s' id) := by
  cases hdeed with
  | look => exact .kept _
  | register _ _ _ _ _ huser hstats =>
    obtain ⟨-, hunique, -, rfl⟩ := insertUser_eq_ok.1 huser
    obtain ⟨-, -, -, rfl⟩ := insertStats_eq_ok.1 hstats
    exact .append (Registry.newcomer m.now _ _ _ _) (fun u hu => (hunique u hu).1) rfl rfl id
  | deleteUser => exact .filter _ id
  | grant _ _ _ huser _ _ hwrite =>
    exact stamps_of_writeUser hs (mem_of_userByKey? huser) hwrite rfl rfl id
  | createItem _ _ _ _ _ _ _ _ _ _ hinsert =>
    obtain ⟨-, -, rfl⟩ := insertItem_eq_ok.1 hinsert
    exact .of_rows_eq rfl id
  | updateItem _ _ hitem _ hwrite =>
    obtain ⟨row, -, rfl⟩ := rewrites_of_writeItem hs (mem_of_item? hitem) hwrite rfl rfl
    exact .of_rows_eq rfl id
  | deleteItem => exact .of_rows_eq rfl id
  | buy _ _ huser _ _ _ hwrite _ hinsert =>
    -- The new possession is no matter of the users.
    obtain ⟨-, -, rfl⟩ := insertPossession_eq_ok.1 hinsert
    exact stamps_of_writeUser hs (mem_of_user? huser) hwrite rfl rfl id
  | buyAgain _ _ huser _ _ _ hwrite =>
    exact stamps_of_writeUser hs (mem_of_user? huser) hwrite rfl rfl id
  | throwAway _ _ huser _ _ hwrite =>
    exact stamps_of_writeUser hs (mem_of_user? huser) hwrite rfl rfl id
  | equip =>
    split
    · exact .kept _
    · rw [Wardrobe.wear_eq]
      exact .of_rows_eq rfl id
  | addStats _ _ _ _ _ _ _ _ _ _ _ hwrite =>
    obtain ⟨-, rfl⟩ := writeStats_eq_ok.1 hwrite
    exact .of_rows_eq rfl id
  | createNews _ _ _ _ _ hinsert =>
    obtain ⟨-, rfl⟩ := insertNews_eq_ok.1 hinsert
    exact .of_rows_eq rfl id
  | updateNews _ _ _ _ _ _ hwrite =>
    obtain ⟨-, rfl⟩ := writeNews_eq_ok.1 hwrite
    exact .of_rows_eq rfl id

/-- Writing a user is no matter of the items. -/
theorem Store.items_of_writeUser {old u : User} (hs : s.Sound) (hold : old ∈ s.users)
    (h : s.writeUser now u = .ok s') (hid : u.id = old.id) : s'.items = s.items := by
  obtain ⟨stamp, -, rfl⟩ := writeUser_eq_ok hs.userIds hold h hid
  rfl

/-- **What a deed does to the row of every item.** -/
theorem Deed.stamps_items (hdeed : Deed m s call answer s') (hs : s.Sound) (id : String) :
    itemStamping.Stamps m.now (itemStamping.find s id) (itemStamping.find s' id) := by
  cases hdeed with
  | look => exact .kept _
  | register _ _ _ _ _ huser hstats =>
    obtain ⟨-, -, -, rfl⟩ := insertUser_eq_ok.1 huser
    obtain ⟨-, -, -, rfl⟩ := insertStats_eq_ok.1 hstats
    exact .of_rows_eq rfl id
  | deleteUser => exact .of_rows_eq rfl id
  | grant _ _ _ huser _ _ hwrite =>
    exact .of_rows_eq (items_of_writeUser hs (mem_of_userByKey? huser) hwrite rfl) id
  | createItem _ _ _ _ _ _ _ _ _ hrest hinsert =>
    obtain ⟨-, hunique, rfl⟩ := insertItem_eq_ok.1 hinsert
    exact .append _ (fun i hi => (hunique i hi).1) hrest.2.2.1 hrest.2.2.2 id
  | updateItem _ _ hitem _ hwrite =>
    obtain ⟨row, hrow, rfl⟩ := rewrites_of_writeItem hs (mem_of_item? hitem) hwrite rfl rfl
    exact .put hs.itemIds (mem_of_item? hitem) hrow id
  | deleteItem => exact .filter _ id
  | buy _ _ huser _ _ _ hwrite _ hinsert =>
    obtain ⟨-, -, rfl⟩ := insertPossession_eq_ok.1 hinsert
    exact .of_rows_eq (items_of_writeUser hs (mem_of_user? huser) hwrite rfl) id
  | buyAgain _ _ huser _ _ _ hwrite =>
    exact .of_rows_eq (items_of_writeUser hs (mem_of_user? huser) hwrite rfl) id
  | throwAway _ _ huser _ _ hwrite =>
    exact .of_rows_eq (items_of_writeUser hs (mem_of_user? huser) hwrite rfl) id
  | equip =>
    split
    · exact .kept _
    · rw [Wardrobe.wear_eq]
      exact .of_rows_eq rfl id
  | addStats _ _ _ _ _ _ _ _ _ _ _ hwrite =>
    obtain ⟨-, rfl⟩ := writeStats_eq_ok.1 hwrite
    exact .of_rows_eq rfl id
  | createNews _ _ _ _ _ hinsert =>
    obtain ⟨-, rfl⟩ := insertNews_eq_ok.1 hinsert
    exact .of_rows_eq rfl id
  | updateNews _ _ _ _ _ _ hwrite =>
    obtain ⟨-, rfl⟩ := writeNews_eq_ok.1 hwrite
    exact .of_rows_eq rfl id

/-! ### Idle calls -/

/-- A call that has nothing to change: a grant of nothing, a purchase that is free, an item
thrown away that is worth nothing, an update that says what is there already. -/
inductive Call.IsIdle (s : Store) : Call → Prop
  | grant {key addCoins addGems : Value} (hcoins : Input.amount addCoins "add_coins" = .ok 0)
      (hgems : Input.amount addGems "add_gems" = .ok 0) : IsIdle s (.grant key addCoins addGems)
  | buy {userId itemId : Value} {i : String} {item : Item}
      (hitemId : Input.identifier itemId "item_id" = .ok i) (hitem : s.item? i = some item)
      (hfree : item.price = ⟨0, 0⟩) : IsIdle s (.buy userId itemId)
  | throwAway {userId itemId : Value} {i : String} {item : Item}
      (hitemId : Input.identifier itemId "item_id" = .ok i) (hitem : s.item? i = some item)
      (hworthless : item.base = ⟨0, 0⟩) : IsIdle s (.throwAway userId itemId)
  | updateItem {id : Value} {change : Catalogue.Change} {k : String} {merge : Catalogue.Merge}
      {item : Item} (hid : Input.identifier id "id" = .ok k) (hmerge : change.check = .ok merge)
      (hitem : s.item? k = some item) (hsame : merge.apply item = item) :
      IsIdle s (.updateItem id change)

/-- A user who is written as the user who is there changes nothing. -/
theorem Store.eq_of_writeUser {u : User} (hs : s.Sound) (hu : u ∈ s.users)
    (h : s.writeUser now u = .ok s') : s' = s := by
  unfold writeUser at h
  rw [(user?_eq_some_iff hs.userIds).2 ⟨hu, rfl⟩] at h
  exact (Except.ok.inj ((if_pos rfl).symm.trans h)).symm

/-- An item that is written as the item that is there changes nothing. -/
theorem Store.eq_of_writeItem {i : Item} (hs : s.Sound) (hi : i ∈ s.items)
    (h : s.writeItem now i = .ok s') : s' = s := by
  unfold writeItem at h
  rw [(item?_eq_some_iff hs.itemIds).2 ⟨hi, rfl⟩] at h
  exact (Except.ok.inj ((if_pos rfl).symm.trans h)).symm

/-- **An idle call changes no user and no item.** -/
theorem Deed.same_of_idle (hdeed : Deed m s call answer s') (hs : s.Sound)
    (hidle : call.IsIdle s) : s'.users = s.users ∧ s'.items = s.items := by
  cases hidle with
  | grant hcoins hgems =>
    cases hdeed with
    | look hlooks => cases hlooks
    | @grant _ _ _ _ _ _ coins gems user _ _ hcoins' hgems' huser hnewCoins hnewGems hwrite =>
      obtain rfl := Except.ok.inj (hcoins.symm.trans hcoins')
      obtain rfl := Except.ok.inj (hgems.symm.trans hgems')
      obtain ⟨-, rfl⟩ := Input.total_eq_ok.1 hnewCoins
      obtain ⟨-, rfl⟩ := Input.total_eq_ok.1 hnewGems
      rw [Int.add_zero, Int.add_zero] at hwrite
      rw [eq_of_writeUser hs (mem_of_userByKey? huser) hwrite]
      exact ⟨rfl, rfl⟩
  | buy hitemId hitem hfree =>
    cases hdeed with
    | look hlooks => cases hlooks
    | buy _ hitemId' huser hitem' _ _ hwrite _ hinsert =>
      obtain rfl := Except.ok.inj (hitemId.symm.trans hitemId')
      obtain rfl := Option.some.inj (hitem.symm.trans hitem')
      obtain ⟨-, -, rfl⟩ := insertPossession_eq_ok.1 hinsert
      rw [hfree] at hwrite
      simp only [Int.sub_zero] at hwrite
      rw [eq_of_writeUser hs (mem_of_user? huser) hwrite]
      exact ⟨rfl, rfl⟩
    | buyAgain _ hitemId' huser hitem' _ _ hwrite _ =>
      obtain rfl := Except.ok.inj (hitemId.symm.trans hitemId')
      obtain rfl := Option.some.inj (hitem.symm.trans hitem')
      rw [hfree] at hwrite
      simp only [Int.sub_zero] at hwrite
      rw [eq_of_writeUser hs (mem_of_user? huser) hwrite]
      exact ⟨rfl, rfl⟩
  | throwAway hitemId hitem hworthless =>
    cases hdeed with
    | look hlooks => cases hlooks
    | throwAway _ hitemId' huser hitem' _ hwrite =>
      obtain rfl := Except.ok.inj (hitemId.symm.trans hitemId')
      obtain rfl := Option.some.inj (hitem.symm.trans hitem')
      rw [hworthless] at hwrite
      simp only [Int.add_zero] at hwrite
      rw [eq_of_writeUser hs (mem_of_user? huser) hwrite]
      exact ⟨rfl, rfl⟩
  | updateItem hid hmerge hitem hsame =>
    cases hdeed with
    | look hlooks => cases hlooks
    | updateItem hid' hmerge' hitem' _ hwrite =>
      obtain rfl := Except.ok.inj (hid.symm.trans hid')
      obtain rfl := Except.ok.inj (hmerge.symm.trans hmerge')
      obtain rfl := Option.some.inj (hitem.symm.trans hitem')
      rw [hsame] at hwrite
      rw [eq_of_writeItem hs (mem_of_item? hitem) hwrite]
      exact ⟨rfl, rfl⟩

end Deeds

/-! ### The last event of a kind -/

/-- The time of the last one of the events of a kind. -/
def LastTime (P : Event → Prop) (es : List Event) (time : Instant) : Prop :=
  ∃ past e later, es = past ++ e :: later ∧ P e ∧ e.moment.now = time ∧ ∀ e' ∈ later, ¬P e'

namespace LastTime

variable {P Q : Event → Prop} {es : List Event} {e : Event} {time time' : Instant}

theorem now (h : P e) : LastTime P (es ++ [e]) e.moment.now := by
  refine ⟨es, e, [], rfl, h, rfl, fun e' he' => ?_⟩
  cases he'

/-- An event of another kind is passed over. -/
theorem append (h : LastTime P es time) (hother : ¬P e) : LastTime P (es ++ [e]) time := by
  obtain ⟨past, e', later, rfl, he', htime, hlater⟩ := h
  refine ⟨past, e', later ++ [e], by rw [List.append_assoc, List.cons_append], he', htime, ?_⟩
  intro e'' hmem
  rcases List.mem_append.1 hmem with hmem | hmem
  · exact hlater e'' hmem
  · rw [List.mem_singleton.1 hmem]
    exact hother

theorem exists_mem (h : LastTime P es time) : ∃ e ∈ es, P e ∧ e.moment.now = time := by
  obtain ⟨past, e, later, rfl, he, htime, -⟩ := h
  exact ⟨e, List.mem_append_right _ List.mem_cons_self, he, htime⟩

/-- Of two kinds, the last event of the wider one is not the earlier one, if the clock is
never set back. -/
theorem le (h : LastTime P es time) (h' : LastTime Q es time') (hwider : ∀ e, P e → Q e)
    (hclock : es.Pairwise fun e e' => e.moment.now ≤ e'.moment.now) : time ≤ time' := by
  obtain ⟨e, hmem, he, rfl⟩ := h.exists_mem
  obtain ⟨past, e', later, rfl, -, rfl, hlater⟩ := h'
  rcases List.mem_append.1 hmem with hmem | hmem
  · exact (List.pairwise_append.1 hclock).2.2 e hmem e' List.mem_cons_self
  · rcases List.mem_cons.1 hmem with rfl | hmem
    · exact (Instant.le_def _ _).2 (Int.le_refl _)
    · exact absurd (hwider e he) (hlater e hmem)

end LastTime

/-! ### Runs -/

section Runs

open Stamping

variable {α : Type} {t : Stamping α} {es : List Event} {s : Store}

theorem Stamping.agrees_self (row : α) : t.Agrees row row := t.stamp_updatedAt row

/-- An event that adds a row changes it. -/
theorem Stamping.Adds.changes {id : String} {e : Event} (h : t.Adds id e) : t.Changes id e := by
  obtain ⟨hanswer, hnone, hsome⟩ := h
  obtain ⟨new, hnew⟩ := Option.isSome_iff_exists.1 hsome
  refine ⟨hanswer, new, hnew, fun old hold => ?_⟩
  rw [hnone] at hold
  cases hold

/-- Every row of a store has the times of the last events that added and changed it. -/
def Stamping.Dated (t : Stamping α) (es : List Event) (s : Store) : Prop :=
  ∀ id row, t.find s id = some row →
    LastTime (t.Adds id) es (t.createdAt row) ∧ LastTime (t.Changes id) es (t.updatedAt row)

/-- **One more event keeps the rows dated**, if it is a stop that changes nothing or does to
each row what may become of it. -/
theorem Stamping.Dated.append {e : Event} (h : t.Dated es e.before)
    (hstamps : ∀ id, t.Stamps e.moment.now (t.find e.before id) (t.find e.after id))
    (hanswer : e.answer = none → e.after = e.before) : t.Dated (es ++ [e]) e.after := by
  intro id row hafter
  have hanswers : t.find e.before id ≠ some row → e.answer.isSome = true := by
    intro hne
    by_contra hnone
    rw [hanswer (Option.not_isSome_iff_eq_none.1 hnone)] at hafter
    exact hne hafter
  have hstamp := hstamps id
  generalize hbefore : t.find e.before id = before? at hstamp hanswers
  rw [hafter] at hstamp
  cases hstamp with
  | kept =>
    obtain ⟨hcreated, hupdated⟩ := h id row hbefore
    refine ⟨hcreated.append ?_, hupdated.append ?_⟩
    · rintro ⟨-, hnone, -⟩
      rw [hbefore] at hnone
      cases hnone
    · rintro ⟨-, new, hnew, hdiffers⟩
      obtain rfl := Option.some.inj (hafter.symm.trans hnew)
      exact hdiffers row hbefore (agrees_self row)
  | added hcreated hupdated =>
    have hadds : t.Adds id e := ⟨hanswers nofun, hbefore, by rw [hafter]; rfl⟩
    exact ⟨hcreated.symm ▸ .now hadds, hupdated.symm ▸ .now hadds.changes⟩
  | @changed old _ hcreated hupdated hdiffers =>
    have hchanges : t.Changes id e := by
      refine ⟨hanswers fun hsame => ?_, row, hafter, fun old' hold => ?_⟩
      · obtain rfl := Option.some.inj hsame
        exact hdiffers (agrees_self old)
      · obtain rfl := Option.some.inj (hbefore.symm.trans hold)
        exact hdiffers
    refine ⟨hcreated.symm ▸ (h id old hbefore).1.append ?_, hupdated.symm ▸ .now hchanges⟩
    rintro ⟨-, hnone, -⟩
    rw [hbefore] at hnone
    cases hnone

/-- A table that deeds treat as it is to be treated. -/
def Stamping.IsObeyed (t : Stamping α) : Prop :=
  ∀ {m : Moment} {s s' : Store} {call : Call} {answer : Answer}, Deed m s call answer s' →
    s.Sound → ∀ id, t.Stamps m.now (t.find s id) (t.find s' id)

theorem Chronicle.dated (past : Chronicle {} es s) (hempty : t.rows {} = [])
    (hobeyed : t.IsObeyed) : t.Dated es s := by
  induction past with
  | start =>
    intro id row hrow
    unfold Stamping.find at hrow
    rw [hempty] at hrow
    cases hrow
  | deed past hdeed ih => exact ih.append (hobeyed hdeed (past.sound .empty)) nofun
  | stop _ ih => exact ih.append (fun id => .kept _) fun _ => rfl

/-- What holds of deeds at sound stores and of stops holds of every event of a run from
empty tables. -/
theorem Chronicle.forall_event (past : Chronicle {} es s) {P : Event → Prop}
    (hdeed : ∀ {m : Moment} {s s' : Store} {call : Call} {answer : Answer},
      Deed m s call answer s' → s.Sound → P ⟨m, call, s, some answer, s'⟩)
    (hstop : ∀ {m : Moment} {s : Store} {call : Call}, P ⟨m, call, s, none, s⟩) :
    ∀ e ∈ es, P e := by
  induction past with
  | start =>
    intro e he
    cases he
  | deed past h ih =>
    exact List.forall_mem_append.2 ⟨ih, List.forall_mem_singleton.2 (hdeed h (past.sound .empty))⟩
  | stop _ ih => exact List.forall_mem_append.2 ⟨ih, List.forall_mem_singleton.2 hstop⟩

/-- A step is taken at its moment. -/
theorem Service.moments_history (service : Service) (d : Desk) (steps : List Step) :
    (service.history d steps).map (·.moment) = steps.map (·.moment) := by
  induction steps generalizing d with
  | nil => rfl
  | cons step steps ih =>
    have hmoment : (service.take d step).1.moment = step.moment := by
      unfold take
      split <;> rfl
    rw [history, List.map_cons, List.map_cons, ih, hmoment]

/-- What the times of the rows of a table are, after the events of a run. -/
structure Timestamps (t : Stamping α) (es : List Event) (s : Store) : Prop where
  created : ∀ row ∈ t.rows s, LastTime (t.Adds (t.id row)) es (t.createdAt row)
  updated : ∀ row ∈ t.rows s, LastTime (t.Changes (t.id row)) es (t.updatedAt row)
  ordered : ∀ row ∈ t.rows s, t.createdAt row ≤ t.updatedAt row ∧
    ∀ now, (∀ e ∈ es, e.moment.now ≤ now) → t.updatedAt row ≤ now
  keeps : ∀ e ∈ es, ∀ id old new, t.find e.before id = some old → t.find e.after id = some new →
    t.createdAt new = t.createdAt old ∧ (¬t.Changes id e → new = old)
  idle : ∀ e ∈ es, e.answer = none ∨ e.call.IsIdle e.before → t.rows e.after = t.rows e.before

/-- **The times of the rows** of a table whose ids are unique, after the events of a run
from empty tables with a clock that is never set back. -/
theorem Chronicle.timestamps (past : Chronicle {} es s) (hempty : t.rows {} = [])
    (hobeyed : t.IsObeyed) (hids : ((t.rows s).map t.id).Nodup)
    (hclock : es.Pairwise fun e e' => e.moment.now ≤ e'.moment.now)
    (hidle : ∀ {m : Moment} {s s' : Store} {call : Call} {answer : Answer},
      Deed m s call answer s' → s.Sound → call.IsIdle s → t.rows s' = t.rows s) :
    Timestamps t es s := by
  have hdated := past.dated hempty hobeyed
  have hfind : ∀ row ∈ t.rows s, t.find s (t.id row) = some row := fun row hrow =>
    Rows.find?_of_mem hids (fun _ => beq_iff_eq) hrow rfl
  refine
    { created := fun row hrow => (hdated _ _ (hfind row hrow)).1
      updated := fun row hrow => (hdated _ _ (hfind row hrow)).2
      ordered := fun row hrow => ?_
      keeps := ?_
      idle := ?_ }
  · obtain ⟨hcreated, hupdated⟩ := hdated _ _ (hfind row hrow)
    refine ⟨hcreated.le hupdated (fun _ h => h.changes) hclock, fun now hnow => ?_⟩
    obtain ⟨e, hmem, -, htime⟩ := hupdated.exists_mem
    exact htime ▸ hnow e hmem
  · refine past.forall_event ?_ ?_
    · intro m s s' call answer hdeed hs id old new hold hnew
      dsimp only at hold hnew
      have hstamp := hobeyed hdeed hs id
      rw [hold, hnew] at hstamp
      cases hstamp with
      | kept => exact ⟨rfl, fun _ => rfl⟩
      | changed hcreated _ hdiffers =>
        refine ⟨hcreated, fun hkept => absurd ⟨rfl, new, hnew, fun old' hold' => ?_⟩ hkept⟩
        obtain rfl := Option.some.inj (hold.symm.trans hold')
        exact hdiffers
    · intro m s call id old new hold hnew
      obtain rfl := Option.some.inj (hold.symm.trans hnew)
      exact ⟨rfl, fun _ => rfl⟩
  · refine past.forall_event ?_ ?_
    · rintro m s s' call answer hdeed hs (hnone | hcall)
      · cases hnone
      · exact hidle hdeed hs hcall
    · intro m s call _
      rfl

end Runs

/-- **The times of users and items**, for every run from empty tables under a clock that is
never set back. -/
theorem rows_timestamped (service : Service) (d : Desk) (steps : List Step)
    (hclock : steps.Pairwise fun step step' => step.moment.now ≤ step'.moment.now) :
    Timestamps userStamping (service.history { d with store := {} } steps)
        (service.run { d with store := {} } steps).store ∧
      Timestamps itemStamping (service.history { d with store := {} } steps)
        (service.run { d with store := {} } steps).store := by
  have past := service.chronicle { d with store := {} } steps
  have hs := past.sound .empty
  have hevents : (service.history { d with store := {} } steps).Pairwise
      fun e e' => e.moment.now ≤ e'.moment.now := by
    have hmoments : (steps.map (·.moment)).Pairwise fun m m' => m.now ≤ m'.now :=
      List.pairwise_map.2 hclock
    rwa [← service.moments_history { d with store := {} }, List.pairwise_map] at hmoments
  constructor
  · exact past.timestamps rfl Deed.stamps_users hs.userIds hevents fun hdeed hs hidle =>
      (hdeed.same_of_idle hs hidle).1
  · exact past.timestamps rfl Deed.stamps_items hs.itemIds hevents fun hdeed hs hidle =>
      (hdeed.same_of_idle hs hidle).2

namespace Hourglass

/-- The moment of a tick. -/
def tick (n : Int) : Moment := ⟨⟨n⟩, none⟩

/-- A user registers and a hat is added that costs nothing; nothing is granted, the hat is
bought, 20 coins are granted, and the hat is given the name that it has. -/
def steps : List Step :=
  [⟨tick 0, .register (.text "ada") (.text "a@b.c") (.text "pw")⟩,
    ⟨tick 1, .createItem { name := .text "hat", slot := .int 1, imageId := .text "p" }⟩,
    ⟨tick 2, .grant (.text "ada") (.int 0) (.int 0)⟩, ⟨tick 3, .buy (.text "ada") (.text "hat")⟩,
    ⟨tick 4, .grant (.text "ada") (.int 20) (.int 0)⟩,
    ⟨tick 5, .updateItem (.text "hat") { name := .text "hat" }⟩]

/-- The user in the end. -/
def ada : User := { Savings.ada with coins := 20, updatedAt := ⟨4⟩ }

/-- The item in the end. -/
def hat : Item :=
  { id := "hat", name := "hat", slot := 1, imageId := "p", createdAt := ⟨1⟩, updatedAt := ⟨1⟩ }

/-- The user and the item in the end. -/
theorem run_steps :
    (Savings.service.run { Savings.desk with store := {} } steps).store =
      { users := [ada], items := [hat], possessions := [⟨"ada", "hat", false⟩]
        stats := [{ id := "stats", userId := "ada" }] } :=
  congrArg (·.store) (Savings.service.run_ada ⟨0⟩ "ada" "stats" ["hat"] _)

end Hourglass

open Hourglass in
/-- The last change of the user is the grant that gave something, and that of the hat is
still its beginning. -/
theorem rows_timestamped_hourglass :
    ada ∈ (Savings.service.run { Savings.desk with store := {} } steps).store.users ∧
      LastTime (userStamping.Changes "ada")
        (Savings.service.history { Savings.desk with store := {} } steps) ⟨4⟩ ∧
      LastTime (itemStamping.Changes "hat")
        (Savings.service.history { Savings.desk with store := {} } steps) ⟨1⟩ := by
  have hada : ada ∈ [ada] := List.mem_singleton_self ada
  have hhat : hat ∈ [hat] := List.mem_singleton_self hat
  have hclock : steps.Pairwise fun step step' => step.moment.now ≤ step'.moment.now := by
    simp [steps, tick, Instant.le_def]
  obtain ⟨husers, hitems⟩ := rows_timestamped Savings.service Savings.desk steps hclock
  rw [run_steps] at husers hitems ⊢
  exact ⟨hada, husers.updated ada hada, hitems.updated hat hhat⟩

end Guildhall
