/-
Guildhall/Proofs/Integrity.lean

A store whose tables fit together: keys and the columns marked unique occur
once, a possession is of an item that exists by a user who exists, and each
user has one row of statistics, which nobody else has.  The empty store is
sound and every deed leaves a sound store sound, so every store that a run
of the service reaches is (`Chronicle.sound`).
-/
import Guildhall.Proofs.Run
import Guildhall.Proofs.Wearing
import Mathlib.Data.List.Perm.Basic

namespace Guildhall

/-- A store whose tables fit together. -/
structure Store.Sound (s : Store) : Prop where
  userIds : (s.users.map (·.id)).Nodup
  userNames : (s.users.map (·.name)).Nodup
  userEmails : (s.users.map (·.email)).Nodup
  itemIds : (s.items.map (·.id)).Nodup
  itemNames : (s.items.map fun i => (i.name, i.slot)).Nodup
  itemImages : (s.items.map (·.imageId)).Nodup
  possessionKeys : (s.possessions.map Possession.key).Nodup
  possessionUsers : ∀ p ∈ s.possessions, p.userId ∈ s.users.map (·.id)
  possessionItems : ∀ p ∈ s.possessions, p.itemId ∈ s.items.map (·.id)
  statsIds : (s.stats.map (·.id)).Nodup
  statsUsers : (s.stats.map (·.userId)).Perm (s.users.map (·.id))
  newsIds : (s.news.map (·.id)).Nodup
  newsTitles : (s.news.map (·.title)).Nodup

/-- A store with the rows of those users only whose ids pass a test, and with all items
and announcements. -/
def Store.rowsOf (p : String → Bool) (s : Store) : Store :=
  { s with
    users := s.users.filter (p ·.id)
    possessions := s.possessions.filter (p ·.userId)
    stats := s.stats.filter (p ·.userId) }

/-- The one row of a name is a row. -/
theorem Scoreboard.mem_of_singleRow {s : Store} {name : String} {row : Stats}
    (h : Scoreboard.singleRow s name = .ok row) : row ∈ s.stats := by
  unfold Scoreboard.singleRow at h
  split at h
  · rename_i r hrows
    obtain rfl := Except.ok.inj h
    exact (List.mem_filter.1 (hrows ▸ List.mem_singleton_self _ : r ∈ s.statsOf name)).1
  · cases h

namespace Store.Sound

variable {s s' s₁ s₂ : Store} {m : Moment}

theorem empty : ({} : Store).Sound := by
  constructor <;> simp

/-! ### Users -/

/-- A registration adds a user together with statistics. -/
theorem register (hs : s.Sound) {u : User} {row : Stats} (hrow : row.userId = u.id)
    (huser : s.insertUser u = .ok s₁) (hstats : s₁.insertStats row = .ok s₂) : s₂.Sound := by
  obtain ⟨-, hunique, -, rfl⟩ := insertUser_eq_ok.1 huser
  obtain ⟨-, hfresh, -, rfl⟩ := insertStats_eq_ok.1 hstats
  have hids : (s.users ++ [u]).map (·.id) = s.users.map (·.id) ++ [u.id] := List.map_append
  refine { hs with
    userIds := Rows.nodup_append hs.userIds fun v hv => (hunique v hv).1
    userNames := Rows.nodup_append hs.userNames fun v hv => (hunique v hv).2.1
    userEmails := Rows.nodup_append hs.userEmails fun v hv => (hunique v hv).2.2
    possessionUsers := fun p hp => ?_
    statsIds := Rows.nodup_append hs.statsIds hfresh
    statsUsers := ?_ }
  · show p.userId ∈ (s.users ++ [u]).map (·.id)
    rw [hids]
    exact List.mem_append_left _ (hs.possessionUsers p hp)
  · -- Both columns grow by the id of the new user.
    show ((s.stats ++ [row]).map (·.userId)).Perm ((s.users ++ [u]).map (·.id))
    rw [hids, List.map_append, List.map_singleton, hrow]
    exact hs.statsUsers.append_right _

/-- A user who is written keeps id, name and email address. -/
theorem writeUser (hs : s.Sound) {u old : User} (hold : old ∈ s.users)
    (h : s.writeUser m.now u = .ok s') (hid : u.id = old.id) (hname : u.name = old.name)
    (hemail : u.email = old.email) : s'.Sound := by
  obtain ⟨stamp, -, rfl⟩ := writeUser_eq_ok hs.userIds hold h hid
  -- The row that is replaced is the old one of this user, so every column that may
  -- not repeat itself is the same as before.
  have hsame : ∀ v ∈ s.users, v.id = u.id → v = old := by
    intro v hv hvid
    exact Rows.eq_of_key hs.userIds hv hold (hvid.trans hid)
  have hids : (Rows.put (·.id) { u with updatedAt := stamp } s.users).map (·.id) =
      s.users.map (·.id) := Rows.map_key_put
  have hnames : (Rows.put (·.id) { u with updatedAt := stamp } s.users).map (·.name) =
      s.users.map (·.name) := by
    apply Rows.map_put
    intro v hv hvid
    rw [hsame v hv hvid]
    exact hname.symm
  have hemails : (Rows.put (·.id) { u with updatedAt := stamp } s.users).map (·.email) =
      s.users.map (·.email) := by
    apply Rows.map_put
    intro v hv hvid
    rw [hsame v hv hvid]
    exact hemail.symm
  exact { hs with
    userIds := hids ▸ hs.userIds
    userNames := hnames ▸ hs.userNames
    userEmails := hemails ▸ hs.userEmails
    possessionUsers := fun p hp => hids ▸ hs.possessionUsers p hp
    statsUsers := hids ▸ hs.statsUsers }

/-- The rows of some of the users fit together as those of all of them do. -/
theorem rowsOf (hs : s.Sound) (p : String → Bool) : (s.rowsOf p).Sound := by
  refine { hs with
    userIds := Rows.nodup_filter _ hs.userIds
    userNames := Rows.nodup_filter _ hs.userNames
    userEmails := Rows.nodup_filter _ hs.userEmails
    possessionKeys := Rows.nodup_filter _ hs.possessionKeys
    possessionUsers := fun q hq => ?_
    possessionItems := fun q hq => hs.possessionItems q (List.mem_filter.1 hq).1
    statsIds := Rows.nodup_filter _ hs.statsIds
    statsUsers := ?_ }
  · -- A possession that stays is of a user who stays.
    obtain ⟨hmem, hpass⟩ := List.mem_filter.1 hq
    obtain ⟨u, hu, hid⟩ := List.mem_map.1 (hs.possessionUsers q hmem)
    exact List.mem_map.2 ⟨u, List.mem_filter.2 ⟨hu, hid ▸ hpass⟩, hid⟩
  · -- A test of the ids is a filter of the id columns, which are the same up to order.
    have hperm := hs.statsUsers.filter p
    rw [List.filter_map, List.filter_map] at hperm
    exact hperm

theorem deleteUser (hs : s.Sound) (id : String) : (s.deleteUser id).Sound := hs.rowsOf (· != id)

/-! ### Items -/

theorem insertItem (hs : s.Sound) {i : Item} (h : s.insertItem i = .ok s') : s'.Sound := by
  obtain ⟨-, hunique, rfl⟩ := insertItem_eq_ok.1 h
  refine { hs with
    itemIds := Rows.nodup_append hs.itemIds fun j hj => (hunique j hj).1
    itemNames := Rows.nodup_append hs.itemNames fun j hj => (hunique j hj).2.1
    itemImages := Rows.nodup_append hs.itemImages fun j hj => (hunique j hj).2.2
    possessionItems := fun p hp => ?_ }
  show p.itemId ∈ (s.items ++ [i]).map (·.id)
  rw [List.map_append]
  exact List.mem_append_left _ (hs.possessionItems p hp)

theorem writeItem (hs : s.Sound) {i old : Item} (hold : old ∈ s.items)
    (h : s.writeItem m.now i = .ok s') (hid : i.id = old.id) : s'.Sound := by
  obtain ⟨stamp, hstamp, rfl⟩ := writeItem_eq_ok hs.itemIds hold h hid
  have hids : (Rows.put (·.id) { i with updatedAt := stamp } s.items).map (·.id) =
      s.items.map (·.id) := Rows.map_key_put
  -- The item is unique because it is the old one, or because that has been checked.
  have hunique : ∀ j ∈ s.items, j.id ≠ i.id →
      (j.name, j.slot) ≠ (i.name, i.slot) ∧ j.imageId ≠ i.imageId := by
    rcases hstamp with hsame | ⟨-, -, hunique⟩
    · intro j hj hne
      have hname : (i.name, i.slot) = (old.name, old.slot) := by rw [← hsame]
      have himage : i.imageId = old.imageId := by rw [← hsame]
      rw [hname, himage]
      refine ⟨fun h => hne ?_, fun h => hne ?_⟩
      · rw [List.inj_on_of_nodup_map hs.itemNames hj hold h, hid]
      · rw [List.inj_on_of_nodup_map hs.itemImages hj hold h, hid]
    · exact hunique
  exact { hs with
    itemIds := hids ▸ hs.itemIds
    itemNames := Rows.nodup_put hs.itemIds hs.itemNames fun j hj hne => (hunique j hj hne).1
    itemImages := Rows.nodup_put hs.itemIds hs.itemImages fun j hj hne => (hunique j hj hne).2
    possessionItems := fun p hp => hids ▸ hs.possessionItems p hp }

theorem deleteItem (hs : s.Sound) (id : String) : (s.deleteItem id).Sound := by
  refine { hs with
    itemIds := Rows.nodup_filter _ hs.itemIds
    itemNames := Rows.nodup_filter _ hs.itemNames
    itemImages := Rows.nodup_filter _ hs.itemImages
    possessionKeys := Rows.nodup_filter _ hs.possessionKeys
    possessionUsers := fun p hp => hs.possessionUsers p (List.mem_filter.1 hp).1
    possessionItems := fun p hp => ?_ }
  -- A possession that stays is of an item that stays.
  obtain ⟨hmem, hne⟩ := List.mem_filter.1 hp
  obtain ⟨i, hi, hid⟩ := List.mem_map.1 (hs.possessionItems p hmem)
  exact List.mem_map.2 ⟨i, List.mem_filter.2 ⟨hi, hid ▸ hne⟩, hid⟩

/-! ### Possessions -/

theorem insertPossession (hs : s.Sound) {p : Possession} (h : s.insertPossession p = .ok s') :
    s'.Sound := by
  obtain ⟨hfresh, ⟨huser, hitem⟩, rfl⟩ := insertPossession_eq_ok.1 h
  refine { hs with
    possessionKeys := Rows.nodup_append hs.possessionKeys hfresh
    possessionUsers := fun q hq => ?_
    possessionItems := fun q hq => ?_ }
  · rcases List.mem_append.1 hq with hq | hq
    · exact hs.possessionUsers q hq
    · rw [List.mem_singleton.1 hq]
      exact List.mem_map.2 huser
  · rcases List.mem_append.1 hq with hq | hq
    · exact hs.possessionItems q hq
    · rw [List.mem_singleton.1 hq]
      exact List.mem_map.2 hitem

theorem deletePossession (hs : s.Sound) (userId itemId : String) :
    (s.deletePossession userId itemId).Sound :=
  { hs with
    possessionKeys := Rows.nodup_filter _ hs.possessionKeys
    possessionUsers := fun p hp => hs.possessionUsers p (List.mem_filter.1 hp).1
    possessionItems := fun p hp => hs.possessionItems p (List.mem_filter.1 hp).1 }

theorem wear (hs : s.Sound) (slot : List Possession) (target : Possession) :
    (Wardrobe.wear s slot target).Sound := by
  -- Flags are neither keys nor references.
  rw [Wardrobe.wear_eq]
  refine { hs with
    possessionKeys := ?_
    possessionUsers := fun p hp => ?_
    possessionItems := fun p hp => ?_ }
  · show ((s.possessions.map _).map Possession.key).Nodup
    rw [List.map_map]
    exact hs.possessionKeys
  · obtain ⟨q, hq, rfl⟩ := List.mem_map.1 hp
    exact hs.possessionUsers q hq
  · obtain ⟨q, hq, rfl⟩ := List.mem_map.1 hp
    exact hs.possessionItems q hq

/-! ### Statistics and news -/

theorem writeStats (hs : s.Sound) {row old : Stats} (hold : old ∈ s.stats) (hid : row.id = old.id)
    (huser : row.userId = old.userId) (h : s.writeStats row = .ok s') : s'.Sound := by
  obtain ⟨-, rfl⟩ := writeStats_eq_ok.1 h
  have hids : (Rows.put (·.id) row s.stats).map (·.id) = s.stats.map (·.id) := Rows.map_key_put
  have husers : (Rows.put (·.id) row s.stats).map (·.userId) = s.stats.map (·.userId) := by
    apply Rows.map_put
    intro r hr hrid
    rw [Rows.eq_of_key hs.statsIds hr hold (hrid.trans hid), huser]
  exact { hs with
    statsIds := hids ▸ hs.statsIds
    statsUsers := husers ▸ hs.statsUsers }

theorem insertNews (hs : s.Sound) {n : News} (h : s.insertNews n = .ok s') : s'.Sound := by
  obtain ⟨hunique, rfl⟩ := insertNews_eq_ok.1 h
  exact { hs with
    newsIds := Rows.nodup_append hs.newsIds fun k hk => (hunique k hk).1
    newsTitles := Rows.nodup_append hs.newsTitles fun k hk => (hunique k hk).2 }

theorem writeNews (hs : s.Sound) {n : News} (h : s.writeNews n = .ok s') : s'.Sound := by
  obtain ⟨hunique, rfl⟩ := writeNews_eq_ok.1 h
  exact { hs with
    newsIds := Rows.nodup_put hs.newsIds hs.newsIds fun _ _ hne => hne
    newsTitles := Rows.nodup_put hs.newsIds hs.newsTitles hunique }

/-! ### Deeds and runs -/

/-- **Every deed leaves a sound store sound.** -/
theorem deed {call : Call} {answer : Answer} (h : Deed m s call answer s') (hs : s.Sound) :
    s'.Sound := by
  cases h with
  | look => exact hs
  | register _ _ _ _ _ huser hstats => exact hs.register rfl huser hstats
  | deleteUser => exact hs.deleteUser _
  | grant _ _ _ huser _ _ hwrite =>
    exact hs.writeUser (mem_of_userByKey? huser) hwrite rfl rfl rfl
  | createItem _ _ _ _ _ _ _ _ _ _ hinsert => exact hs.insertItem hinsert
  | updateItem _ _ hitem _ hwrite =>
    exact hs.writeItem (mem_of_item? hitem) hwrite rfl
  | deleteItem => exact hs.deleteItem _
  | buy _ _ huser _ _ _ hwrite _ hinsert =>
    exact (hs.writeUser (mem_of_user? huser) hwrite rfl rfl rfl).insertPossession hinsert
  | buyAgain _ _ huser _ _ _ hwrite =>
    exact hs.writeUser (mem_of_user? huser) hwrite rfl rfl rfl
  | throwAway _ _ huser _ _ hwrite =>
    exact (hs.writeUser (mem_of_user? huser) hwrite rfl rfl rfl).deletePossession _ _
  | equip =>
    split
    · exact hs
    · exact hs.wear _ _
  | addStats _ _ _ _ _ hrow hid _ _ _ _ hwrite =>
    exact hs.writeStats (Scoreboard.mem_of_singleRow hrow) hid.1 hid.2 hwrite
  | createNews _ _ _ _ _ hinsert => exact hs.insertNews hinsert
  | updateNews _ _ _ _ _ _ hwrite => exact hs.writeNews hwrite

end Store.Sound

/-- After the events of a run that starts with a sound store, the store is sound. -/
theorem Chronicle.sound {start s : Store} {es : List Event} (past : Chronicle start es s)
    (hstart : start.Sound) : s.Sound := past.invariant hstart Store.Sound.deed

end Guildhall
