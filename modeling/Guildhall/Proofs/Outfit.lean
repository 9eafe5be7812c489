/-
Guildhall/Proofs/Outfit.lean

What comes of putting an item on, in full.  The item is looked for, and then the possession
of it among what the user has of its slot; if both are there, the call succeeds.  What was
worn in the slot comes off and the item is put on,

    equip m userId itemId d = .ok f { d with store := wear d.store slot target }

unless it is worn already, and then nothing is written.  So where a user wears at most one
item of a slot, the item is what the user wears there in the end, and a second call finds
it worn (`equip_worn`).

Main statement: `equip_complete`.
-/
import Guildhall.Proofs.Clash
import Guildhall.Proofs.Ready

namespace Guildhall

open Session

variable {m : Moment} {d : Desk} {s : Store} {u : String} {item : Item} {p target : Possession}

/-! ### What a user has of a slot -/

namespace Store

/-- The possession of an item is among those of its slot. -/
theorem mem_possessionsIn_of_key (hs : s.Sound) (hitem : item ∈ s.items) (hp : p ∈ s.possessions)
    (hkey : p.key = (u, item.id)) : p ∈ s.possessionsIn u item.slot := by
  obtain ⟨huser, hid⟩ := Prod.mk.inj hkey
  exact mem_possessionsIn.2 ⟨hp, huser, (slotOf_eq_some_iff hs).2 ⟨item, hitem, hid.symm, rfl⟩⟩

/-- The possession of an item is found among those of its slot. -/
theorem find?_possessionsIn (hs : s.Sound) (hitem : item ∈ s.items) (hp : p ∈ s.possessions)
    (hkey : p.key = (u, item.id)) :
    (s.possessionsIn u item.slot).find? (·.itemId == item.id) = some p := by
  have hmem := mem_possessionsIn_of_key hs hitem hp hkey
  have hfound : ((s.possessionsIn u item.slot).find? (·.itemId == item.id)).isSome :=
    List.find?_isSome.2 ⟨p, hmem, beq_iff_eq.2 (Prod.mk.inj hkey).2⟩
  obtain ⟨q, hq⟩ := Option.isSome_iff_exists.1 hfound
  obtain ⟨hqmem, hquser, -⟩ := mem_possessionsIn.1 (List.mem_of_find?_eq_some hq)
  have hqitem : q.itemId = item.id :=
    beq_iff_eq.1 (List.find?_some (p := fun q : Possession => q.itemId == item.id) hq)
  -- What has been found has the key of the possession.
  rw [hq, Rows.eq_of_key hs.possessionKeys hqmem hp ((Prod.ext hquser hqitem).trans hkey.symm)]

theorem find?_possessionsIn_eq_none {i : String} {slot : Int}
    (hnone : ∀ p ∈ s.possessions, p.key ≠ (u, i)) :
    (s.possessionsIn u slot).find? (·.itemId == i) = none := by
  rw [List.find?_eq_none]
  intro p hp hid
  obtain ⟨hmem, huser, -⟩ := mem_possessionsIn.1 hp
  exact hnone p hmem (Prod.ext huser (beq_iff_eq.1 hid))

/-- What is worn of a slot is one possession if it is that one whatever is looked at. -/
theorem worn_eq_singleton (hs : s.Sound) {slot : Int}
    (hone : ∀ q, q ∈ s.worn u slot ↔ q = p) : s.worn u slot = [p] := by
  have hperm : (s.worn u slot).Perm [p] :=
    (List.perm_ext_iff_of_nodup (nodup_worn hs) (List.nodup_singleton p)).2 fun q => by
      rw [hone q, List.mem_singleton]
  exact List.perm_singleton.1 hperm

/-- An item that is worn is all that is worn of its slot, if nothing else can be. -/
theorem worn_of_mem (hs : s.Sound) (hitem : item ∈ s.items)
    (hone : (s.worn u item.slot).length ≤ 1) (hp : ⟨u, item.id, true⟩ ∈ s.possessions) :
    s.worn u item.slot = [⟨u, item.id, true⟩] := by
  have hmem : ⟨u, item.id, true⟩ ∈ s.worn u item.slot :=
    List.mem_filter.2 ⟨mem_possessionsIn_of_key hs hitem hp rfl, rfl⟩
  have hall := (Rows.length_le_one_iff (nodup_worn hs)).1 hone
  refine worn_eq_singleton hs fun q => ⟨fun hq => hall q hq _ hmem, ?_⟩
  rintro rfl
  exact hmem

/-- If a user wears one item of a slot at most, then what is found first is that one. -/
theorem find?_equipped_iff (hs : s.Sound) {slot : Int} (hone : (s.worn u slot).length ≤ 1)
    {x : String} :
    ((s.possessionsIn u slot).find? (·.equipped)).map (·.itemId) = some x ↔
      ⟨u, x, true⟩ ∈ s.worn u slot := by
  have hfirst : ∀ q, (s.possessionsIn u slot).find? (·.equipped) = some q → q ∈ s.worn u slot :=
    fun q hq => List.mem_filter.2 ⟨List.mem_of_find?_eq_some hq,
      List.find?_some (p := fun q : Possession => q.equipped) hq⟩
  constructor
  · intro h
    obtain ⟨q, hq, rfl⟩ := Option.map_eq_some_iff.1 h
    have hworn := hfirst q hq
    obtain ⟨-, huser, -, hflag⟩ := mem_worn.1 hworn
    have hq' : q = ⟨u, q.itemId, true⟩ := by rw [← huser, ← hflag]
    exact hq' ▸ hworn
  · intro hx
    obtain ⟨hmem, hflag⟩ := List.mem_filter.1 hx
    obtain ⟨q, hq⟩ := Option.isSome_iff_exists.1 (List.find?_isSome.2 ⟨_, hmem, hflag⟩)
    have hsame := (Rows.length_le_one_iff (nodup_worn hs)).1 hone q (hfirst q hq) _ hx
    rw [hq, hsame]
    rfl

/-! ### The store after an item has been put on -/

/-- Of the slot, the item is all that is worn. -/
theorem worn_wear (hs : s.Sound) {slot : Int} (htarget : target ∈ s.possessionsIn u slot) :
    (Wardrobe.wear s (s.possessionsIn u slot) target).worn u slot = [target.flagged true] := by
  refine worn_eq_singleton (hs.wear _ _) fun q => ?_
  obtain ⟨hmem, huser, hslot⟩ := mem_possessionsIn.1 htarget
  rw [mem_worn, Wardrobe.wear_eq]
  constructor
  · rintro ⟨hq, hqu, hqslot, hqworn⟩
    obtain ⟨p, hp, rfl⟩ := List.mem_map.1 hq
    change Wardrobe.wornAfter (s.possessionsIn u slot) target p = true at hqworn
    rcases (wornAfter_possessionsIn hp).1 hqworn with hkey | ⟨-, hout⟩
    · rw [hqworn, Possession.flagged_eq hkey]
    · exact absurd ⟨hqu, hqslot⟩ hout
  · rintro rfl
    have hon : Wardrobe.wornAfter (s.possessionsIn u slot) target target = true :=
      (wornAfter_possessionsIn hmem).2 (.inl rfl)
    exact ⟨List.mem_map.2 ⟨target, hmem, by rw [hon]⟩, huser, hslot, rfl⟩

/-- What is of another user or of another slot is as it was. -/
theorem mem_wear_iff {slot : Int} (htarget : target ∈ s.possessionsIn u slot)
    (hout : ¬(p.userId = u ∧ s.slotOf p.itemId = some slot)) :
    p ∈ (Wardrobe.wear s (s.possessionsIn u slot) target).possessions ↔ p ∈ s.possessions := by
  obtain ⟨-, huser, hslot⟩ := mem_possessionsIn.1 htarget
  -- Its flag is what it was, for it is not the target.
  have hflag : ∀ q ∈ s.possessions, ¬(q.userId = u ∧ s.slotOf q.itemId = some slot) →
      q.flagged (Wardrobe.wornAfter (s.possessionsIn u slot) target q) = q := by
    intro q hq hqout
    have hne : q.key ≠ target.key := by
      intro hkey
      obtain ⟨hquser, hqitem⟩ := Prod.mk.inj hkey
      exact hqout ⟨hquser.trans huser, hqitem ▸ hslot⟩
    have hsame : Wardrobe.wornAfter (s.possessionsIn u slot) target q = q.equipped := by
      rw [Bool.eq_iff_iff, wornAfter_possessionsIn hq]
      exact ⟨fun h => (h.resolve_left hne).1, fun h => .inr ⟨h, hqout⟩⟩
    rw [hsame, Possession.flagged_equipped]
  rw [Wardrobe.wear_eq]
  constructor
  · intro hp
    obtain ⟨q, hq, rfl⟩ := List.mem_map.1 hp
    rwa [hflag q hq hout]
  · intro hp
    exact List.mem_map.2 ⟨p, hp, hflag p hp hout⟩

end Store

/-! ### Ways in which it ends -/

namespace Wardrobe

variable {userId itemId : Value}

theorem equip_noItem {i : String} (hd : d.Ready)
    (huserId : Input.Names userId "user_id" u) (hitemId : Input.Names itemId "item_id" i)
    (hnone : ∀ item ∈ d.store.items, item.id ≠ i) :
    equip m userId itemId d = .error (.failure (.notFound "Item" (.text i))) d := by
  unfold equip
  rw [huserId.check, hitemId.check]
  refine refused_ready hd ?_
  rw [bind_ready (storeFor_ready hd hitemId.bytes), Store.item?_eq_none_iff.2 hnone]
  rfl

theorem equip_notHeld (hd : d.Ready) (hs : d.store.Sound)
    (huserId : Input.Names userId "user_id" u) (hitemId : Input.Names itemId "item_id" item.id)
    (hitem : item ∈ d.store.items)
    (hnone : ∀ p ∈ d.store.possessions, p.key ≠ (u, item.id)) :
    equip m userId itemId d =
      .error (.failure (.notFound "Possession" (Market.pairName u item.id))) d := by
  unfold equip
  rw [huserId.check, hitemId.check]
  refine refused_ready hd ?_
  rw [bind_ready (storeFor_ready hd hitemId.bytes),
    (Store.item?_eq_some_iff hs.itemIds).2 ⟨hitem, rfl⟩]
  show (storeFor userId >>= _) d = _
  rw [bind_ready (storeFor_ready hd huserId.bytes)]
  simp only [Store.find?_possessionsIn_eq_none hnone]
  rfl

/-- Putting on what is worn changes nothing, at any moment. -/
theorem equip_worn (hd : d.Ready) (hs : d.store.Sound)
    (huserId : Input.Names userId "user_id" u) (hitemId : Input.Names itemId "item_id" item.id)
    (hitem : item ∈ d.store.items)
    (hworn : d.store.worn u item.slot = [⟨u, item.id, true⟩]) :
    equip m userId itemId d =
      .ok { userId := u, itemId := item.id, previousItemId := some item.id, changed := false }
        d := by
  have hmem : ⟨u, item.id, true⟩ ∈ d.store.worn u item.slot := hworn ▸ List.mem_singleton_self _
  have hprevious := (Store.find?_equipped_iff hs (by rw [hworn]; exact Nat.le_refl 1)).2 hmem
  have htarget := Store.find?_possessionsIn hs hitem (Store.mem_worn.1 hmem).1 rfl
  unfold equip
  rw [huserId.check, hitemId.check]
  refine reporting_ready (transaction_ready hd ?_ hd)
  rw [bind_ready (storeFor_ready hd hitemId.bytes),
    (Store.item?_eq_some_iff hs.itemIds).2 ⟨hitem, rfl⟩]
  show (storeFor userId >>= _) d = _
  rw [bind_ready (storeFor_ready hd huserId.bytes)]
  simp only [htarget, hprevious]
  rfl

end Wardrobe

/-! ### What can come of it -/

/-- What putting an item on makes of a store, and how it is answered: the item is what the
user wears of its slot, and nothing else is different. -/
structure Fitted (s : Store) (u : String) (item : Item) (f : Wardrobe.Fitting) (s' : Store) :
    Prop where
  userId : f.userId = u
  itemId : f.itemId = item.id
  /-- Of the slot, the item is all that is worn. -/
  only : s'.worn u item.slot = [⟨u, item.id, true⟩]
  /-- What is of another user or of another slot is as it was, with its flag. -/
  others : ∀ p : Possession, p.userId ≠ u ∨ s.slotOf p.itemId ≠ some item.slot →
    (p ∈ s'.possessions ↔ p ∈ s.possessions)
  /-- No row is added or removed. -/
  rows : s'.possessions.map Possession.key = s.possessions.map Possession.key
  users : s'.users = s.users
  items : s'.items = s.items
  stats : s'.stats = s.stats
  news : s'.news = s.news
  /-- What was worn of the slot before is named. -/
  previous : ∀ x, f.previousItemId = some x ↔ ⟨u, x, true⟩ ∈ s.worn u item.slot
  changed : f.changed = false ↔ ⟨u, item.id, true⟩ ∈ s.possessions
  /-- If nothing is reported as changed, nothing is. -/
  same : f.changed = false → s' = s

/-- Nothing is different where the item is worn. -/
theorem Store.fitted_worn (hworn : s.worn u item.slot = [⟨u, item.id, true⟩]) :
    Fitted s u item
      { userId := u, itemId := item.id, previousItemId := some item.id, changed := false } s where
  userId := rfl
  itemId := rfl
  only := hworn
  others := fun _ _ => Iff.rfl
  rows := rfl
  users := rfl
  items := rfl
  stats := rfl
  news := rfl
  previous := by
    intro x
    rw [hworn, List.mem_singleton, Option.some.injEq, Possession.mk.injEq]
    exact ⟨fun h => ⟨rfl, h.symm, rfl⟩, fun h => h.2.1.symm⟩
  changed := by
    have hmem : ⟨u, item.id, true⟩ ∈ s.worn u item.slot := hworn ▸ List.mem_singleton_self _
    exact iff_of_true rfl (mem_worn.1 hmem).1
  same := fun _ => rfl

/-- Where it is not worn, it is put on. -/
theorem Store.fitted_wear (hs : s.Sound) (hitem : item ∈ s.items)
    (hone : (s.worn u item.slot).length ≤ 1) (hheld : ⟨u, item.id, false⟩ ∈ s.possessions) :
    Fitted s u item
      { userId := u, itemId := item.id
        previousItemId := ((s.possessionsIn u item.slot).find? (·.equipped)).map (·.itemId)
        changed := true }
      (Wardrobe.wear s (s.possessionsIn u item.slot) ⟨u, item.id, false⟩) := by
  have htarget := mem_possessionsIn_of_key hs hitem hheld rfl
  refine
    { userId := rfl
      itemId := rfl
      only := worn_wear hs htarget
      others := fun p hout => mem_wear_iff htarget (not_and_or.2 hout)
      rows := ?_
      users := ?_
      items := ?_
      stats := ?_
      news := ?_
      previous := fun x => find?_equipped_iff hs hone
      changed := ?_
      same := nofun }
  · rw [Wardrobe.wear_eq]
    exact List.map_map
  · rw [Wardrobe.wear_eq]
  · rw [Wardrobe.wear_eq]
  · rw [Wardrobe.wear_eq]
  · rw [Wardrobe.wear_eq]
  · -- The item is had once, so it is not also worn.
    refine iff_of_false nofun fun hworn => ?_
    have hsame := Rows.eq_of_key hs.possessionKeys hheld hworn rfl
    exact Bool.false_ne_true (congrArg Possession.equipped hsame)

/-- **What comes of putting an item on**, at every store that a run from empty tables
reaches and for all ids that name keys, if the user wears at most one item of the
slot.  The two ways to fail come in this order and leave the desk as it was; a second call
after one that succeeds finds the item worn and changes nothing. -/
theorem equip_complete {service : Service} {desk : Desk} {steps : List Step}
    (hstore : d.store = (service.run { desk with store := {} } steps).store) (hd : d.Ready)
    (hm : m.fault = none) {userId itemId : Value} {i : String}
    (huserId : Input.Names userId "user_id" u) (hitemId : Input.Names itemId "item_id" i) :
    ((∀ item ∈ d.store.items, item.id ≠ i) →
      service.perform m (.equip userId itemId) d =
        .error (.failure (.notFound "Item" (.text i))) d) ∧
    ∀ item ∈ d.store.items, item.id = i → (d.store.worn u item.slot).length ≤ 1 →
      ((∀ p ∈ d.store.possessions, p.key ≠ (u, i)) →
        service.perform m (.equip userId itemId) d =
          .error (.failure (.notFound "Possession" (Market.pairName u i))) d) ∧
      ∀ p ∈ d.store.possessions, p.key = (u, i) →
        ∃ f s, Fitted d.store u item f s ∧
          service.perform m (.equip userId itemId) d = .ok (.fitting f) { d with store := s } ∧
          ∀ m', service.perform m' (.equip userId itemId) { d with store := s } =
            .ok (.fitting { f with previousItemId := some i, changed := false })
              { d with store := s } := by
  have hs : d.store.Sound := hstore ▸ (service.chronicle _ steps).sound .empty
  refine ⟨fun hnone => ?_, fun item hitem hi hone => ⟨fun hnone => ?_, fun p hp hkey => ?_⟩⟩
  · exact bind_stopped (Wardrobe.equip_noItem hd huserId hitemId hnone)
  · subst hi
    exact bind_stopped (Wardrobe.equip_notHeld hd hs huserId hitemId hitem hnone)
  · subst hi
    obtain ⟨_, _, flag⟩ := p
    obtain ⟨rfl, rfl⟩ := Prod.mk.inj hkey
    cases flag with
    | true =>
      have hworn := Store.worn_of_mem hs hitem hone hp
      exact ⟨_, d.store, Store.fitted_worn hworn,
        bind_ready (Wardrobe.equip_worn hd hs huserId hitemId hitem hworn),
        fun m' => bind_ready (Wardrobe.equip_worn hd hs huserId hitemId hitem hworn)⟩
    | false =>
      have hfitted := Store.fitted_wear hs hitem hone hp
      have htarget := Store.find?_possessionsIn hs hitem hp rfl
      refine ⟨_, _, hfitted, bind_ready (Wardrobe.equip_ready hd hm huserId hitemId
        ((Store.item?_eq_some_iff hs.itemIds).2 ⟨hitem, rfl⟩) htarget rfl), fun m' => ?_⟩
      exact bind_ready (Wardrobe.equip_worn (hd.holding _ _) (hs.wear _ _) huserId hitemId
        (hfitted.items ▸ hitem) hfitted.only)

namespace Closet

open TwoHats

/-- The user puts the cap on, and then the hat is moved to the slot of the cap. -/
def steps : List Step :=
  shopping ++ [⟨noon, .equip (.text "ada") (.text "cap")⟩,
    ⟨noon, .updateItem (.text "hat") { slot := .int 2 }⟩]

/-- The tables after that. -/
def tables : Store :=
  { users := [ada]
    items := [piece "cap" "q" 2, piece "hat" "p" 2]
    possessions := [⟨"ada", "cap", true⟩, ⟨"ada", "hat", false⟩]
    stats := [{ id := "stats", userId := "ada" }] }

theorem run_steps : tables = (service.run { desk with store := {} } steps).store := by
  unfold steps
  rw [Service.run_append, show service.run { desk with store := {} } shopping =
    wardrobe 2 false false from run_shopping]
  show tables = (service.take (service.take (wardrobe 2 false false)
    ⟨noon, .equip (.text "ada") (.text "cap")⟩).2
    ⟨noon, .updateItem (.text "hat") { slot := .int 2 }⟩).2.store
  rw [take_cap]
  rfl

theorem worn_ada : tables.worn "ada" 2 = [⟨"ada", "cap", true⟩] := by
  unfold Store.worn Store.possessionsIn
  rw [show tables.possessionsOf "ada" = [⟨"ada", "cap", true⟩, ⟨"ada", "hat", false⟩] from
    wardrobe_sorted 2 true false]
  rfl

end Closet

open TwoHats Closet in
/-- The hat takes the place of the cap. -/
theorem equip_complete_closet :
    ∃ f s, Fitted tables "ada" (piece "hat" "p" 2) f s ∧ f.previousItemId = some "cap" ∧
      service.perform noon (.equip (.text "ada") (.text " hat ")) { store := tables } =
        .ok (.fitting f) { store := s } := by
  have hitemId : Input.Names (.text " hat ") "item_id" "hat" := Input.names_text rfl
  have hhat := (equip_complete (m := noon) (d := { store := tables }) run_steps ⟨rfl, rfl, rfl⟩ rfl
    names_ada hitemId).2 (piece "hat" "p" 2) (.tail _ (.head _)) rfl
    (by rw [show (piece "hat" "p" 2).slot = 2 from rfl, worn_ada]; decide)
  obtain ⟨f, s, hfitted, hperform, -⟩ := hhat.2 ⟨"ada", "hat", false⟩ (.tail _ (.head _)) rfl
  refine ⟨f, s, hfitted, (hfitted.previous "cap").2 ?_, hperform⟩
  rw [show (piece "hat" "p" 2).slot = 2 from rfl, worn_ada]
  exact .head _

end Guildhall
