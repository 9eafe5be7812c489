/-
Guildhall/Proofs/Slots.lean

Of the items of one slot a user wears one (`OneWornPerSlot`).  In a sound
store that is a statement about two possessions (`oneWornPerSlot_iff`), and
it survives whatever puts nothing on and leaves the items that are worn as
they are (`WornKept`).  Putting an item on takes off what was worn in its
slot (`OneWornPerSlot.wear`).
-/
import Guildhall.Proofs.Integrity

namespace Guildhall

/-! ### What is worn -/

namespace Store

variable {s s' : Store} {u : String} {slot : Int} {p q : Possession}

/-- What a user wears of the items of a slot. -/
def worn (s : Store) (userId : String) (slot : Int) : List Possession :=
  (s.possessionsIn userId slot).filter (·.equipped)

/-- Nobody wears two items of one slot. -/
def OneWornPerSlot (s : Store) : Prop := ∀ userId slot, (s.worn userId slot).length ≤ 1

/-- The slot of an item. -/
def slotOf (s : Store) (itemId : String) : Option Int := (s.item? itemId).map (·.slot)

theorem mem_possessionsIn :
    p ∈ s.possessionsIn u slot ↔
      p ∈ s.possessions ∧ p.userId = u ∧ s.slotOf p.itemId = some slot := by
  unfold possessionsIn possessionsOf slotOf
  rw [List.mem_filter, List.mem_mergeSort, List.mem_filter, beq_iff_eq, and_assoc]
  cases s.item? p.itemId <;> simp

/-- Possessions that stand in the order of their items need no sorting. -/
theorem possessionsOf_of_sorted
    (h : (s.possessions.filter (·.userId == u)).Pairwise fun p q => p.itemId ≤ q.itemId) :
    s.possessionsOf u = s.possessions.filter (·.userId == u) :=
  List.mergeSort_of_pairwise (h.imp fun h => decide_eq_true h)

theorem mem_worn :
    p ∈ s.worn u slot ↔
      p ∈ s.possessions ∧ p.userId = u ∧ s.slotOf p.itemId = some slot ∧ p.equipped = true := by
  unfold worn
  rw [List.mem_filter, mem_possessionsIn, and_assoc, and_assoc]

theorem nodup_worn (hs : s.Sound) : (s.worn u slot).Nodup := by
  have hnodup : s.possessions.Nodup := hs.possessionKeys.of_map
  unfold worn possessionsIn possessionsOf
  exact (((List.mergeSort_perm _ _).nodup_iff.2 (hnodup.filter _)).filter _).filter _

theorem slotOf_eq_some_iff (hs : s.Sound) {itemId : String} :
    s.slotOf itemId = some slot ↔ ∃ i ∈ s.items, i.id = itemId ∧ i.slot = slot := by
  unfold slotOf
  simp only [Option.map_eq_some_iff, item?_eq_some_iff hs.itemIds, and_assoc]

/-- A possession is of an item with a slot. -/
theorem Sound.slotOf_isSome (hs : s.Sound) (hp : p ∈ s.possessions) :
    ∃ slot, s.slotOf p.itemId = some slot := by
  obtain ⟨i, hi, hid⟩ := List.mem_map.1 (hs.possessionItems p hp)
  exact ⟨i.slot, (slotOf_eq_some_iff hs).2 ⟨i, hi, hid, rfl⟩⟩

/-- Everybody wears one item of a slot at most if two possessions that are worn by
one user in one slot are always of one item. -/
theorem oneWornPerSlot_iff (hs : s.Sound) :
    s.OneWornPerSlot ↔
      ∀ p ∈ s.possessions, ∀ q ∈ s.possessions, p.equipped = true → q.equipped = true →
        p.userId = q.userId → s.slotOf p.itemId = s.slotOf q.itemId → p.itemId = q.itemId := by
  constructor
  · intro h p hp q hq hpworn hqworn huser hslot
    obtain ⟨slot, hqslot⟩ := hs.slotOf_isSome hq
    have hall := (Rows.length_le_one_iff (nodup_worn hs)).1 (h q.userId slot)
    have hpq : p = q := hall p (mem_worn.2 ⟨hp, huser, hslot.trans hqslot, hpworn⟩) q
      (mem_worn.2 ⟨hq, rfl, hqslot, hqworn⟩)
    rw [hpq]
  · intro h u slot
    rw [Rows.length_le_one_iff (nodup_worn hs)]
    intro p hp q hq
    obtain ⟨hp, hpuser, hpslot, hpworn⟩ := mem_worn.1 hp
    obtain ⟨hq, hquser, hqslot, hqworn⟩ := mem_worn.1 hq
    -- One user and one item: the two have one key.
    have hitem := h p hp q hq hpworn hqworn (hpuser.trans hquser.symm)
      (hpslot.trans hqslot.symm)
    exact Rows.eq_of_key hs.possessionKeys hp hq
      (Prod.ext (hpuser.trans hquser.symm) hitem)

/-! ### Calls that keep it -/

/-- Nothing new is worn, and the items that are worn are the same ones. -/
structure WornKept (s s' : Store) : Prop where
  worn : ∀ p ∈ s'.possessions, p.equipped = true → p ∈ s.possessions
  items : ∀ p ∈ s'.possessions, p.equipped = true →
    ∀ i ∈ s.items, i.id = p.itemId → i ∈ s'.items

/-- Nothing new is worn if the possessions and the items are the same. -/
theorem WornKept.of_eq (hpossessions : s'.possessions = s.possessions)
    (hitems : s'.items = s.items) : s.WornKept s' :=
  ⟨fun _ hp _ => hpossessions ▸ hp, fun _ _ _ _ hi _ => hitems ▸ hi⟩

theorem OneWornPerSlot.kept (h : s.OneWornPerSlot) (hs : s.Sound) (hs' : s'.Sound)
    (hkept : s.WornKept s') : s'.OneWornPerSlot := by
  rw [oneWornPerSlot_iff hs] at h
  rw [oneWornPerSlot_iff hs']
  have hslots : ∀ p ∈ s'.possessions, p.equipped = true →
      s'.slotOf p.itemId = s.slotOf p.itemId := by
    intro p hp hworn
    -- The item was there before and is still there, with its slot.
    obtain ⟨slot, hslot⟩ := hs.slotOf_isSome (hkept.worn p hp hworn)
    obtain ⟨i, hi, hid, hi'⟩ := (slotOf_eq_some_iff hs).1 hslot
    rw [hslot, slotOf_eq_some_iff hs']
    exact ⟨i, hkept.items p hp hworn i hi hid, hid, hi'⟩
  intro p hp q hq hpworn hqworn huser hslot
  rw [hslots p hp hpworn, hslots q hq hqworn] at hslot
  exact h p (hkept.worn p hp hpworn) q (hkept.worn q hq hqworn) hpworn hqworn huser hslot

/-- Writing a user leaves possessions and items alone. -/
theorem WornKept.writeUser {now : Instant} {user : User} (hs : s.Sound) {old : User}
    (hold : old ∈ s.users) (h : s.writeUser now user = .ok s') (hid : user.id = old.id) :
    s.WornKept s' := by
  obtain ⟨stamp, -, rfl⟩ := writeUser_eq_ok hs.userIds hold h hid
  exact .of_eq rfl rfl

/-! ### Putting an item on -/

/-- Of what is worn in a slot everything comes off but the target, which is put on; the
rest is worn if it was. -/
theorem wornAfter_possessionsIn {target : Possession} (hp : p ∈ s.possessions) :
    Wardrobe.wornAfter (s.possessionsIn u slot) target p = true ↔
      p.key = target.key ∨ p.equipped = true ∧ ¬(p.userId = u ∧ s.slotOf p.itemId = some slot) := by
  unfold Wardrobe.wornAfter
  by_cases hkey : p.key = target.key
  · rw [if_pos hkey]
    exact iff_of_true rfl (.inl hkey)
  · rw [if_neg hkey]
    by_cases hoff : ∃ q ∈ s.possessionsIn u slot, q.equipped = true ∧ q.key = p.key
    · -- What is taken off is in the slot, as everything of its key is.
      rw [if_pos hoff]
      obtain ⟨q, hq, -, hqkey⟩ := hoff
      obtain ⟨-, hqu, hqslot⟩ := mem_possessionsIn.1 hq
      obtain ⟨huser, hitem⟩ := Prod.mk.inj hqkey
      refine iff_of_false nofun ?_
      rintro (h | ⟨-, hout⟩)
      · exact hkey h
      · exact hout ⟨huser ▸ hqu, hitem ▸ hqslot⟩
    · rw [if_neg hoff]
      constructor
      · intro hworn
        refine .inr ⟨hworn, ?_⟩
        rintro ⟨hpu, hpslot⟩
        exact hoff ⟨p, mem_possessionsIn.2 ⟨hp, hpu, hpslot⟩, hworn, rfl⟩
      · rintro (h | ⟨hworn, -⟩)
        · exact absurd h hkey
        · exact hworn

/-- Putting an item on takes off what was worn in its slot. -/
theorem OneWornPerSlot.wear (hs : s.Sound) (h : s.OneWornPerSlot) {target : Possession}
    (htarget : target ∈ s.possessionsIn u slot) :
    (Wardrobe.wear s (s.possessionsIn u slot) target).OneWornPerSlot := by
  rw [oneWornPerSlot_iff hs] at h
  rw [oneWornPerSlot_iff (hs.wear _ _), Wardrobe.wear_eq]
  obtain ⟨-, huser, hslot⟩ := mem_possessionsIn.1 htarget
  have hkeys : ∀ {p : Possession}, p.key = target.key → p.userId = u ∧ p.itemId = target.itemId :=
    fun hkey => ⟨(congrArg Prod.fst hkey).trans huser, congrArg Prod.snd hkey⟩
  intro p' hp' q' hq' hpworn hqworn hpquser hpqslot
  obtain ⟨p, hp, rfl⟩ := List.mem_map.1 hp'
  obtain ⟨q, hq, rfl⟩ := List.mem_map.1 hq'
  change p.userId = q.userId at hpquser
  change s.slotOf p.itemId = s.slotOf q.itemId at hpqslot
  show p.itemId = q.itemId
  -- What is worn afterwards is the target, or was worn before in another slot.
  rcases (wornAfter_possessionsIn hp).1 hpworn with hpkey | ⟨hpon, hpout⟩
  · obtain ⟨hpu, hpi⟩ := hkeys hpkey
    rcases (wornAfter_possessionsIn hq).1 hqworn with hqkey | ⟨-, hqout⟩
    · exact hpi.trans (hkeys hqkey).2.symm
    · exact absurd ⟨hpquser ▸ hpu, hpqslot ▸ hpi ▸ hslot⟩ hqout
  · rcases (wornAfter_possessionsIn hq).1 hqworn with hqkey | ⟨hqon, -⟩
    · obtain ⟨hqu, hqi⟩ := hkeys hqkey
      exact absurd ⟨hpquser ▸ hqu, hpqslot ▸ hqi ▸ hslot⟩ hpout
    · exact h p hp q hq hpon hqon hpquser hpqslot

end Store

end Guildhall
