/-
Guildhall/Proofs/Clash.lean

When somebody comes to wear two items of one slot.  Every call keeps what is
worn apart but one: a change of the catalogue may move an item to another
slot, and someone who wears it may already wear something there.  Such a
change is a `Clash`.

Main statement: `one_worn_per_slot_iff`.  At every point of a run from empty
tables everybody wears at most one item of each slot, if and only if no call
of the run was a clash.
-/
import Guildhall.Proofs.Arrival
import Guildhall.Proofs.Slots

namespace Guildhall

/-! ### Clashes -/

open Store

/-- A change of the catalogue moves an item to another slot, and someone who wears
the item already wears something in that slot. -/
inductive Event.Clash : Event → Prop
  | moved {m : Moment} {id : Value} {change : Catalogue.Change} {answer : Answer} {s s' : Store}
      {k : String} {merge : Catalogue.Merge} {item : Item} {p q : Possession}
      (hid : Input.identifier id "id" = .ok k) (hmerge : change.check = .ok merge)
      (hitem : s.item? k = some item) (hslot : (merge.apply item).slot ≠ item.slot)
      (hp : p ∈ s.worn p.userId item.slot) (hpk : p.itemId = k)
      (hq : q ∈ s.worn p.userId (merge.apply item).slot) :
      Clash ⟨m, .updateItem id change, s, some answer, s'⟩

section Change

variable {s s' : Store} {k : String} {item new : Item}

/-- After a change of an item, it has its new slot and every other item the old
one. -/
theorem Store.slotOf_put {itemId : String} (hid : new.id = item.id) (hitem : item ∈ s.items) :
    slotOf { s with items := Rows.put (·.id) new s.items } itemId =
      if item.id = itemId then some new.slot else s.slotOf itemId := by
  unfold slotOf item?
  rw [Rows.find?_put (fun _ => beq_iff_eq), hid]
  by_cases h : item.id = itemId
  · rw [if_pos h, if_pos h, Option.map_map]
    have hsome : (s.items.find? (·.id == itemId)).isSome :=
      List.find?_isSome.2 ⟨item, hitem, beq_iff_eq.2 h⟩
    obtain ⟨i, hi⟩ := Option.isSome_iff_exists.1 hsome
    rw [hi]
    rfl
  · rw [if_neg h, if_neg h]

/-- A change keeps what is worn apart, unless it moves an item to a slot in which
someone who wears it wears something else. -/
theorem Store.OneWornPerSlot.change (hs : s.Sound) (h : s.OneWornPerSlot)
    (hs' : Sound { s with items := Rows.put (·.id) new s.items }) (hitem : item ∈ s.items)
    (hid : new.id = item.id)
    (hapart : new.slot ≠ item.slot → ∀ p ∈ s.possessions, p.itemId = item.id →
      p ∈ s.worn p.userId item.slot → s.worn p.userId new.slot = []) :
    OneWornPerSlot { s with items := Rows.put (·.id) new s.items } := by
  have hold : s.slotOf item.id = some item.slot :=
    (slotOf_eq_some_iff hs).2 ⟨item, hitem, rfl, rfl⟩
  have hone := (oneWornPerSlot_iff hs).1 h
  -- The item that changes may not meet another one that its wearer wears.
  have hmeet : ∀ p ∈ s.possessions, ∀ q ∈ s.possessions, p.equipped = true → q.equipped = true →
      p.userId = q.userId → p.itemId = item.id → s.slotOf q.itemId = some new.slot →
      p.itemId = q.itemId := by
    intro p hp q hq hpworn hqworn huser hpid hqslot
    by_cases hmoved : new.slot = item.slot
    · rw [hmoved] at hqslot
      exact hone p hp q hq hpworn hqworn huser (by rw [hpid, hold, hqslot])
    · have hpslot : s.slotOf p.itemId = some item.slot := by rw [hpid, hold]
      have hnil := hapart hmoved p hp hpid (mem_worn.2 ⟨hp, rfl, hpslot, hpworn⟩)
      have hqmem : q ∈ s.worn p.userId new.slot := mem_worn.2 ⟨hq, huser.symm, hqslot, hqworn⟩
      rw [hnil] at hqmem
      cases hqmem
  rw [oneWornPerSlot_iff hs']
  intro p hp q hq hpworn hqworn huser hslot
  rw [slotOf_put hid hitem, slotOf_put hid hitem] at hslot
  by_cases hpid : item.id = p.itemId
  · by_cases hqid : item.id = q.itemId
    · exact hpid.symm.trans hqid
    · rw [if_pos hpid, if_neg hqid] at hslot
      exact hmeet p hp q hq hpworn hqworn huser hpid.symm hslot.symm
  · by_cases hqid : item.id = q.itemId
    · rw [if_neg hpid, if_pos hqid] at hslot
      exact (hmeet q hq p hp hqworn hpworn huser.symm hqid.symm hslot).symm
    · rw [if_neg hpid, if_neg hqid] at hslot
      exact hone p hp q hq hpworn hqworn huser hslot

/-- A change that moves an item to a slot in which someone who wears it wears
something else brings the two together. -/
theorem Store.not_oneWornPerSlot_of_change {p q : Possession} (hs : s.Sound)
    (hs' : Sound { s with items := Rows.put (·.id) new s.items }) (hitem : item ∈ s.items)
    (hid : new.id = item.id) (hmoved : new.slot ≠ item.slot) (hpid : p.itemId = item.id)
    (hp : p ∈ s.worn p.userId item.slot) (hq : q ∈ s.worn p.userId new.slot) :
    ¬OneWornPerSlot { s with items := Rows.put (·.id) new s.items } := by
  obtain ⟨hpmem, -, -, hpworn⟩ := mem_worn.1 hp
  obtain ⟨hqmem, hquser, hqslot, hqworn⟩ := mem_worn.1 hq
  -- The second item stands in the new slot already, so it is not the one that moves.
  have hqid : item.id ≠ q.itemId := by
    intro h
    have hold : s.slotOf q.itemId = some item.slot :=
      (slotOf_eq_some_iff hs).2 ⟨item, hitem, h, rfl⟩
    exact hmoved (Option.some.inj (hqslot.symm.trans hold))
  rw [oneWornPerSlot_iff hs']
  intro hone
  refine hqid (hpid.symm.trans (hone p hpmem q hqmem hpworn hqworn hquser.symm ?_))
  rw [slotOf_put hid hitem, slotOf_put hid hitem, if_pos hpid.symm, if_neg hqid, hqslot]

end Change

/-! ### Deeds -/

section Deeds

variable {m : Moment} {call : Call} {answer : Answer} {s s' : Store}

/-- **Every deed but a clash keeps what is worn apart.** -/
theorem Deed.oneWornPerSlot (hdeed : Deed m s call answer s') (hs : s.Sound)
    (h : s.OneWornPerSlot) (hclash : ¬Event.Clash ⟨m, call, s, some answer, s'⟩) :
    s'.OneWornPerSlot := by
  have hs' : s'.Sound := hs.deed hdeed
  cases hdeed with
  | look => exact h
  | register _ _ _ _ _ huser hstats =>
    -- Neither users nor statistics are worn.
    obtain ⟨-, -, -, rfl⟩ := insertUser_eq_ok.1 huser
    obtain ⟨-, -, -, rfl⟩ := insertStats_eq_ok.1 hstats
    exact h.kept hs hs' (.of_eq rfl rfl)
  | deleteUser =>
    refine h.kept hs hs' ⟨?_, ?_⟩
    · intro p hp _
      exact (List.mem_filter.1 hp).1
    · intro p hp _ i hi _
      exact hi
  | grant _ _ _ huser _ _ hwrite =>
    exact h.kept hs hs' (.writeUser hs (mem_of_userByKey? huser) hwrite rfl)
  | createItem _ _ _ _ _ _ _ _ _ _ hinsert =>
    obtain ⟨-, -, rfl⟩ := insertItem_eq_ok.1 hinsert
    refine h.kept hs hs' ⟨?_, ?_⟩
    · intro p hp _
      exact hp
    · intro p hp _ i hi _
      exact List.mem_append_left _ hi
  | @updateItem id change k merge item s₁ hid hmerge hitem _ hwrite =>
    have hmem := mem_of_item? hitem
    obtain ⟨stamp, -, rfl⟩ := writeItem_eq_ok hs.itemIds hmem hwrite rfl
    -- If the change brought two items together, it would be a clash.
    refine OneWornPerSlot.change hs h hs' hmem rfl fun hmoved p hp hpid hpworn => ?_
    have hk : item.id = k := ((item?_eq_some_iff hs.itemIds).1 hitem).2
    rw [List.eq_nil_iff_forall_not_mem]
    intro q hq
    exact hclash (.moved hid hmerge hitem hmoved hpworn (hpid.trans hk) hq)
  | deleteItem =>
    refine h.kept hs hs' ⟨?_, ?_⟩
    · intro p hp _
      exact (List.mem_filter.1 hp).1
    · intro p hp _ i hi hid
      -- What is still owned is not of the item that has been removed.
      have hne := (List.mem_filter.1 hp).2
      exact List.mem_filter.2 ⟨hi, hid ▸ hne⟩
  | buy _ _ huser _ _ _ hwrite _ hinsert =>
    have hmem := mem_of_user? huser
    obtain ⟨stamp, -, rfl⟩ := writeUser_eq_ok hs.userIds hmem hwrite rfl
    obtain ⟨-, -, rfl⟩ := insertPossession_eq_ok.1 hinsert
    refine h.kept hs hs' ⟨?_, ?_⟩
    · -- What has just been bought is not worn yet.
      intro p hp hworn
      rcases List.mem_append.1 hp with hp | hp
      · exact hp
      · rw [List.mem_singleton.1 hp] at hworn
        cases hworn
    · intro p hp _ i hi _
      exact hi
  | buyAgain _ _ huser _ _ _ hwrite =>
    exact h.kept hs hs' (.writeUser hs (mem_of_user? huser) hwrite rfl)
  | throwAway _ _ huser _ _ hwrite =>
    have hmem := mem_of_user? huser
    obtain ⟨stamp, -, rfl⟩ := writeUser_eq_ok hs.userIds hmem hwrite rfl
    refine h.kept hs hs' ⟨?_, ?_⟩
    · intro p hp _
      exact (List.mem_filter.1 hp).1
    · intro p hp _ i hi _
      exact hi
  | equip _ _ hitem htarget =>
    split
    · exact h
    · exact h.wear hs (List.mem_of_find?_eq_some htarget)
  | addStats _ _ _ _ _ _ _ _ _ _ _ hwrite =>
    obtain ⟨-, rfl⟩ := writeStats_eq_ok.1 hwrite
    exact h.kept hs hs' (.of_eq rfl rfl)
  | createNews _ _ _ _ _ hinsert =>
    obtain ⟨-, rfl⟩ := insertNews_eq_ok.1 hinsert
    exact h.kept hs hs' (.of_eq rfl rfl)
  | updateNews _ _ _ _ _ _ hwrite =>
    obtain ⟨-, rfl⟩ := writeNews_eq_ok.1 hwrite
    exact h.kept hs hs' (.of_eq rfl rfl)

/-- After a clash somebody wears two items of one slot. -/
theorem Deed.not_oneWornPerSlot (hdeed : Deed m s call answer s') (hs : s.Sound)
    (hclash : Event.Clash ⟨m, call, s, some answer, s'⟩) : ¬s'.OneWornPerSlot := by
  have hs' : s'.Sound := hs.deed hdeed
  cases hclash with
  | @moved _ id change _ _ _ k merge item p q hid hmerge hitem hslot hp hpk hq =>
    cases hdeed with
    | look hlooks => cases hlooks
    | @updateItem _ _ k' merge' item' s₁ hid' hmerge' hitem' _ hwrite =>
      -- The deed is the change that the clash is about.
      obtain rfl : k = k' := Except.ok.inj (hid.symm.trans hid')
      obtain rfl : merge = merge' := Except.ok.inj (hmerge.symm.trans hmerge')
      obtain rfl : item = item' := Option.some.inj (hitem.symm.trans hitem')
      have hmem := mem_of_item? hitem
      have hk : item.id = k := ((item?_eq_some_iff hs.itemIds).1 hitem).2
      obtain ⟨stamp, -, rfl⟩ := writeItem_eq_ok hs.itemIds hmem hwrite rfl
      exact not_oneWornPerSlot_of_change hs hs' hmem rfl hslot (hpk.trans hk.symm) hp hq

end Deeds

/-! ### Runs -/

/-- Everybody wears one item of a slot at most after each event, if and only if none
of the events is a clash. -/
theorem Chronicle.oneWornPerSlot_iff {start s : Store} {es : List Event}
    (past : Chronicle start es s) (hs : start.Sound) (h : start.OneWornPerSlot) :
    (∀ e ∈ es, e.after.OneWornPerSlot) ↔ ∀ e ∈ es, ¬e.Clash := by
  -- The store at the end of the events so far is one of those in question.
  suffices hboth : ((∀ e ∈ es, e.after.OneWornPerSlot) ↔ ∀ e ∈ es, ¬e.Clash) ∧
      ((∀ e ∈ es, e.after.OneWornPerSlot) → s.OneWornPerSlot) from hboth.1
  induction past with
  | start => simpa using h
  | @deed es s s' m call answer past hdeed ih =>
    obtain ⟨ih, hlast⟩ := ih
    have hsound : s.Sound := past.sound hs
    simp only [List.forall_mem_append, List.forall_mem_singleton, ← ih]
    refine ⟨and_congr_right fun hpast => ?_, fun hall => hall.2⟩
    constructor
    · intro hone hclash
      exact hdeed.not_oneWornPerSlot hsound hclash hone
    · exact hdeed.oneWornPerSlot hsound (hlast hpast)
  | @stop es s m call past ih =>
    obtain ⟨ih, hlast⟩ := ih
    simp only [List.forall_mem_append, List.forall_mem_singleton, ← ih]
    refine ⟨and_congr_right fun hpast => ?_, fun hall => hall.2⟩
    constructor
    · rintro - ⟨⟩
    · intro _
      exact hlast hpast

/-- What holds at every point of a run holds at its start and after each event. -/
theorem Service.forall_run_take_iff (service : Service) (d : Desk) (steps : List Step)
    (P : Store → Prop) :
    (∀ n, P (service.run d (steps.take n)).store) ↔
      P d.store ∧ ∀ e ∈ service.history d steps, P e.after := by
  induction steps generalizing d with
  | nil => simp [run, history]
  | cons step steps ih =>
    have hafter : (service.take d step).1.after = (service.take d step).2.store := by
      unfold take
      split <;> rfl
    rw [history, List.forall_mem_cons, hafter, ← ih]
    constructor
    · intro h
      exact ⟨h 0, fun n => h (n + 1)⟩
    · rintro ⟨hstart, h⟩ n
      cases n with
      | zero => exact hstart
      | succ n => exact h n

/-- **At every point of a run from empty tables everybody wears at most one item of
each slot, if and only if no call of the run was a clash.**  Whatever else is called
with whatever arguments, the items that somebody wears stay apart. -/
theorem one_worn_per_slot_iff (service : Service) (d : Desk) (steps : List Step) :
    (∀ n, (service.run { d with store := {} } (steps.take n)).store.OneWornPerSlot) ↔
      ∀ e ∈ service.history { d with store := {} } steps, ¬e.Clash := by
  have hone : ({} : Store).OneWornPerSlot := fun userId slot => by
    rw [List.length_eq_zero_iff.2 (List.eq_nil_iff_forall_not_mem.2 fun p hp => ?_)]
    · exact Nat.zero_le 1
    · cases (mem_worn.1 hp).1
  rw [service.forall_run_take_iff]
  exact (and_iff_right hone).trans ((service.chronicle _ steps).oneWornPerSlot_iff .empty hone)

/-! ### A clash -/

/-- The desk after an item has been put on. -/
theorem Service.take_equip {service : Service} {m : Moment} {d : Desk} {userId itemId : Value}
    {u i : String} {item : Item} {target : Possession} (hd : d.Ready) (hm : m.fault = none)
    (huserId : Input.Names userId "user_id" u) (hitemId : Input.Names itemId "item_id" i)
    (hitem : d.store.item? i = some item)
    (htarget : (d.store.possessionsIn u item.slot).find? (·.itemId == i) = some target)
    (hoff : target.equipped = false) :
    (service.take d ⟨m, .equip userId itemId⟩).2 =
      { d with store := Wardrobe.wear d.store (d.store.possessionsIn u item.slot) target } := by
  have h : service.perform m (.equip userId itemId) d = _ :=
    Session.bind_ready (Wardrobe.equip_ready hd hm huserId hitemId hitem htarget hoff)
  unfold take
  rw [h]
  rfl

namespace TwoHats

/-- A service without a signing key. -/
def service : Service := ⟨⟨"HS256", .error .keyRejected, 1000000, "", "", {}⟩, ""⟩

/-- Empty tables, and ids to come. -/
def desk : Desk := { supply := { prepared := ["ada", "stats", "cap", "hat"] } }

/-- The moment of every call. -/
def noon : Moment := ⟨⟨0⟩, none⟩

/-- A user buys a cap and a hat, which go into different slots. -/
def shopping : List Step :=
  [⟨noon, .register (.text "ada") (.text "a@b.c") (.text "pw")⟩,
    ⟨noon, .createItem { name := .text "cap", slot := .int 2, imageId := .text "q" }⟩,
    ⟨noon, .createItem { name := .text "hat", slot := .int 1, imageId := .text "p" }⟩,
    ⟨noon, .buy (.text "ada") (.text "cap")⟩, ⟨noon, .buy (.text "ada") (.text "hat")⟩]

/-- The user puts both on, and then the cap is moved to the slot of the hat. -/
def dressing : List Step :=
  [⟨noon, .equip (.text "ada") (.text "cap")⟩, ⟨noon, .equip (.text "ada") (.text "hat")⟩,
    ⟨noon, .updateItem (.text "cap") { slot := .int 1 }⟩]

/-- The user, with the digest of the password. -/
def ada : User :=
  { id := "ada", name := "ada", email := "a@b.c",
    password := "30c952fab122c3f9759f02a6d95c3758b246b4fee239957b2d4fee46e26170c4",
    createdAt := ⟨0⟩, updatedAt := ⟨0⟩ }

/-- What is bought. -/
def piece (name image : String) (slot : Int) : Item :=
  { id := name, name, slot, imageId := image, createdAt := ⟨0⟩, updatedAt := ⟨0⟩ }

/-- The desk while the cap is in a slot and the two are worn or not. -/
def wardrobe (slot : Int) (capWorn hatWorn : Bool) : Desk :=
  { store :=
      { users := [ada]
        items := [piece "cap" "q" slot, piece "hat" "p" 1]
        possessions := [⟨"ada", "cap", capWorn⟩, ⟨"ada", "hat", hatWorn⟩]
        stats := [{ id := "stats", userId := "ada" }] } }

theorem wardrobe_ready (slot : Int) (capWorn hatWorn : Bool) :
    (wardrobe slot capWorn hatWorn).Ready := ⟨rfl, rfl, rfl⟩

theorem wardrobe_sorted (slot : Int) (capWorn hatWorn : Bool) :
    (wardrobe slot capWorn hatWorn).store.possessionsOf "ada" =
      [⟨"ada", "cap", capWorn⟩, ⟨"ada", "hat", hatWorn⟩] := by
  apply Store.possessionsOf_of_sorted
  show List.Pairwise _ [_, _]
  rw [List.pairwise_pair]
  show "cap" ≤ "hat"
  decide

theorem run_shopping : service.run desk shopping = wardrobe 2 false false :=
  service.run_ada ⟨0⟩ "ada" "stats" ["cap", "hat"] _

theorem names_ada : Input.Names (.text "ada") "user_id" "ada" := Input.names_text rfl

theorem names_cap : Input.Names (.text "cap") "item_id" "cap" := Input.names_text rfl

theorem names_hat : Input.Names (.text "hat") "item_id" "hat" := Input.names_text rfl

theorem take_cap : (service.take (wardrobe 2 false false)
    ⟨noon, .equip (.text "ada") (.text "cap")⟩).2 = wardrobe 2 true false := by
  have hslot : (wardrobe 2 false false).store.possessionsIn "ada" 2 = [⟨"ada", "cap", false⟩] := by
    unfold Store.possessionsIn
    rw [wardrobe_sorted]
    rfl
  have hitem : (wardrobe 2 false false).store.item? "cap" = some (piece "cap" "q" 2) := rfl
  have htarget : ((wardrobe 2 false false).store.possessionsIn "ada" 2).find? (·.itemId == "cap") =
      some ⟨"ada", "cap", false⟩ := by
    rw [hslot]
    rfl
  rw [Service.take_equip (wardrobe_ready _ _ _) rfl names_ada names_cap hitem htarget rfl]
  show Desk.mk (Wardrobe.wear _ (Store.possessionsIn _ _ 2) _) _ _ _ _ = _
  rw [hslot]
  rfl

theorem take_hat : (service.take (wardrobe 2 true false)
    ⟨noon, .equip (.text "ada") (.text "hat")⟩).2 = wardrobe 2 true true := by
  have hslot : (wardrobe 2 true false).store.possessionsIn "ada" 1 = [⟨"ada", "hat", false⟩] := by
    unfold Store.possessionsIn
    rw [wardrobe_sorted]
    rfl
  have hitem : (wardrobe 2 true false).store.item? "hat" = some (piece "hat" "p" 1) := rfl
  have htarget : ((wardrobe 2 true false).store.possessionsIn "ada" 1).find? (·.itemId == "hat") =
      some ⟨"ada", "hat", false⟩ := by
    rw [hslot]
    rfl
  rw [Service.take_equip (wardrobe_ready _ _ _) rfl names_ada names_hat hitem htarget rfl]
  show Desk.mk (Wardrobe.wear _ (Store.possessionsIn _ _ 1) _) _ _ _ _ = _
  rw [hslot]
  rfl

theorem run_dressing : service.run (wardrobe 2 false false) dressing = wardrobe 1 true true := by
  show (service.take (service.take (service.take (wardrobe 2 false false)
    ⟨noon, .equip (.text "ada") (.text "cap")⟩).2 ⟨noon, .equip (.text "ada") (.text "hat")⟩).2
    ⟨noon, .updateItem (.text "cap") { slot := .int 1 }⟩).2 = _
  rw [take_cap, take_hat]
  rfl

end TwoHats

open TwoHats in
/-- Moving an item onto another one that is worn: in the end the user wears two items
of one slot. -/
theorem two_worn_in_a_slot :
    desk.store = {} ∧
      ((service.run desk (shopping ++ dressing)).store.worn "ada" 1).length = 2 := by
  refine ⟨rfl, ?_⟩
  rw [Service.run_append, run_shopping, run_dressing]
  unfold Store.worn Store.possessionsIn
  rw [wardrobe_sorted]
  rfl

end Guildhall
