/-
Guildhall/Proofs/Statement.lean

What a statement checks and what it changes.  For each statement that may
stop, `…_eq_ok` says when it does not and what the store is then, with the
rows that are put in place of others written as `Rows.put`.  A user or an
item is written only if some column besides the time of the last change
differs; `writeUser_eq_ok` and `writeItem_eq_ok` cover both ways with a
stamp that is either the old time or now.
-/
import Guildhall.Proofs.Rows
import Guildhall.Store.Statement

namespace Guildhall

/-- The key of a possession. -/
def Possession.key (p : Possession) : String × String := (p.userId, p.itemId)

/-! ### Checks -/

theorem Except.bind_eq_ok {ε α β : Type} {x : Except ε α} {f : α → Except ε β} {b : β} :
    (x >>= f) = .ok b ↔ ∃ a, x = .ok a ∧ f a = .ok b := by
  cases x with
  | ok a =>
    constructor
    · intro h
      exact ⟨a, rfl, h⟩
    · rintro ⟨a', ⟨⟩, h⟩
      exact h
  | error e =>
    constructor
    · rintro ⟨⟩
    · rintro ⟨a, ⟨⟩, -⟩

theorem Except.map_eq_ok {ε α β : Type} {x : Except ε α} {f : α → β} {b : β} :
    x.map f = .ok b ↔ ∃ a, x = .ok a ∧ f a = b := by
  cases x <;> simp [Except.map]

/-- Errors in other words do not change a result. -/
theorem Except.mapError_eq_ok {ε δ α : Type} {x : Except ε α} {f : ε → δ} {a : α} :
    x.mapError f = .ok a ↔ x = .ok a := by
  cases x with
  | ok b => exact ⟨fun h => congrArg _ (Except.ok.inj h), fun h => congrArg _ (Except.ok.inj h)⟩
  | error e =>
    constructor
    · rintro ⟨⟩
    · rintro ⟨⟩

/-! ### Checks that stop in some ways only -/

/-- A check that stops in some ways only. -/
def Except.Only {ε α : Type} (P : ε → Prop) (x : Except ε α) : Prop :=
  ∀ stop, x = .error stop → P stop

namespace Except.Only

variable {ε α β : Type} {P : ε → Prop} {x : Except ε α}

theorem ok {a : α} : Only P (.ok a) := nofun

theorem of_ok {a : α} (h : x = .ok a) : Only P x := h ▸ ok

theorem error {stop : ε} (h : P stop) : Only P (.error stop : Except ε α) := by
  rintro _ ⟨⟩
  exact h

/-- Checks in a row stop as one of them. -/
theorem bind {f : α → Except ε β} (hx : Only P x) (hf : ∀ a, x = .ok a → Only P (f a)) :
    Only P (x >>= f) := by
  intro stop h
  cases x with
  | error e =>
    cases h
    exact hx _ rfl
  | ok a => exact hf a rfl stop h

/-- A failure before what comes next. -/
theorem guarded {P : Stop → Prop} {c : Prop} [Decidable c] {f : Failure}
    {rest : Unit → Except Stop α} (hf : P (.failure f)) (hrest : Only P (rest ())) :
    Only P (if c then fail f >>= rest else rest ()) := by
  split
  · exact error hf
  · exact hrest

/-- Errors in other words, none of which is one of others. -/
theorem mapError {δ : Type} {f : δ → ε} {y : Except δ α} (hf : ∀ e, P (f e)) :
    Only P (y.mapError f) := by
  cases y with
  | ok a => exact ok
  | error e => exact error (hf e)

end Except.Only

/-! ### Checks of a statement -/

/-- The check for bytes fails in one way only. -/
theorem checkBytes_eq (v : Value) :
    checkBytes v = .ok () ∨ checkBytes v = .error .unencodable := by
  cases v with
  | torn => exact .inr rfl
  | _ => exact .inl rfl

theorem checkBytes_eq_ok {v : Value} {u : Unit} :
    checkBytes v = .ok u ↔ ∀ raw, v ≠ .torn raw := by
  cases v <;> simp [checkBytes]

theorem checkFits_eq_ok {ns : List Int} {u : Unit} :
    checkFits ns = .ok u ↔ ∀ n ∈ ns, leastStored ≤ n ∧ n ≤ greatestStored := by
  unfold checkFits
  split <;> simp_all [fits]

theorem checkConstraint_eq_ok {holds : Bool} {u : Unit} :
    checkConstraint holds = .ok u ↔ holds = true := by
  unfold checkConstraint
  split <;> simp_all

namespace Store

variable {s s' : Store}

/-! ### Lookups -/

theorem user?_eq_some_iff {id : String} {u : User} (hids : (s.users.map (·.id)).Nodup) :
    s.user? id = some u ↔ u ∈ s.users ∧ u.id = id :=
  Rows.find?_eq_some_iff hids fun _ => beq_iff_eq

/-- A key means a user by id, else by name, else by email address. -/
theorem userByKey?_eq_some_iff {key : String} {u : User} :
    s.userByKey? key = some u ↔
      s.users.find? (·.id == key) = some u ∨
        s.users.find? (·.id == key) = none ∧
          (s.users.find? (·.name == key) = some u ∨
            s.users.find? (·.name == key) = none ∧ s.users.find? (·.email == key) = some u) := by
  unfold userByKey?
  simp only [Option.orElse_eq_orElse, Option.orElse_eq_or, Option.or_eq_some_iff]

theorem mem_of_user? {id : String} {u : User} (h : s.user? id = some u) : u ∈ s.users :=
  List.mem_of_find?_eq_some h

theorem id_of_user? {id : String} {u : User} (h : s.user? id = some u) : u.id = id :=
  beq_iff_eq.1 (List.find?_some (p := fun v : User => v.id == id) h)

theorem mem_of_item? {id : String} {i : Item} (h : s.item? id = some i) : i ∈ s.items :=
  List.mem_of_find?_eq_some h

theorem mem_of_userByKey? {key : String} {u : User} (h : s.userByKey? key = some u) :
    u ∈ s.users := by
  rcases userByKey?_eq_some_iff.1 h with h | ⟨-, h | ⟨-, h⟩⟩
  · exact List.mem_of_find?_eq_some h
  · exact List.mem_of_find?_eq_some h
  · exact List.mem_of_find?_eq_some h

theorem item?_eq_some_iff {id : String} {i : Item} (hids : (s.items.map (·.id)).Nodup) :
    s.item? id = some i ↔ i ∈ s.items ∧ i.id = id :=
  Rows.find?_eq_some_iff hids fun _ => beq_iff_eq

theorem isKey_iff {userId itemId : String} {p : Possession} :
    (p.userId == userId && p.itemId == itemId) = true ↔ p.key = (userId, itemId) := by
  simp [Possession.key]

theorem possession?_eq_none_iff {userId itemId : String} :
    s.possession? userId itemId = none ↔ ∀ p ∈ s.possessions, p.key ≠ (userId, itemId) := by
  unfold possession?
  rw [List.find?_eq_none]
  simp only [isKey_iff, ne_eq]

theorem user?_eq_none_iff {id : String} : s.user? id = none ↔ ∀ u ∈ s.users, u.id ≠ id := by
  simp [user?]

theorem item?_eq_none_iff {id : String} : s.item? id = none ↔ ∀ i ∈ s.items, i.id ≠ id := by
  simp [item?]

theorem user?_isSome_iff {id : String} : (s.user? id).isSome ↔ ∃ u ∈ s.users, u.id = id := by
  simp [user?]

theorem item?_isSome_iff {id : String} : (s.item? id).isSome ↔ ∃ i ∈ s.items, i.id = id := by
  simp [item?]

/-! ### Users -/

theorem userIsUnique_iff {others : List User} {u : User} :
    userIsUnique others u = true ↔
      ∀ v ∈ others, v.id ≠ u.id ∧ v.name ≠ u.name ∧ v.email ≠ u.email := by
  simp [userIsUnique, and_assoc]

theorem balancesHold_iff {u : User} : balancesHold u = true ↔ 0 ≤ u.coins ∧ 0 ≤ u.gems := by
  simp [balancesHold]

theorem insertUser_eq_ok {u : User} :
    s.insertUser u = .ok s' ↔
      (∀ n ∈ [u.coins, u.gems], leastStored ≤ n ∧ n ≤ greatestStored) ∧
        (∀ v ∈ s.users, v.id ≠ u.id ∧ v.name ≠ u.name ∧ v.email ≠ u.email) ∧
        (0 ≤ u.coins ∧ 0 ≤ u.gems) ∧ s' = { s with users := s.users ++ [u] } := by
  unfold insertUser
  simp only [Except.bind_eq_ok, checkFits_eq_ok, checkConstraint_eq_ok,
    Bool.and_eq_true, userIsUnique_iff, balancesHold_iff, exists_const]
  constructor
  · rintro ⟨hfits, ⟨hunique, hholds⟩, ⟨⟩⟩
    exact ⟨hfits, hunique, hholds, rfl⟩
  · rintro ⟨hfits, hunique, hholds, rfl⟩
    exact ⟨hfits, ⟨hunique, hholds⟩, rfl⟩

/-- Putting a user in the place of the one with the same id. -/
theorem replaceUser_eq_ok {u : User} :
    s.replaceUser u.id u = .ok s' ↔
      (∀ n ∈ [u.coins, u.gems], leastStored ≤ n ∧ n ≤ greatestStored) ∧
        (∀ v ∈ s.users, v.id ≠ u.id → v.name ≠ u.name ∧ v.email ≠ u.email) ∧
        (0 ≤ u.coins ∧ 0 ≤ u.gems) ∧ s' = { s with users := Rows.put (·.id) u s.users } := by
  unfold replaceUser Rows.put
  simp only [Except.bind_eq_ok, checkFits_eq_ok, checkConstraint_eq_ok,
    Bool.and_eq_true, userIsUnique_iff, balancesHold_iff, exists_const, List.mem_filter,
    bne_iff_ne, beq_self_eq_true, Bool.true_or, and_true, beq_iff_eq]
  constructor
  · rintro ⟨hfits, ⟨hunique, hholds⟩, ⟨⟩⟩
    exact ⟨hfits, fun v hv hne => (hunique v ⟨hv, hne⟩).2, hholds, rfl⟩
  · rintro ⟨hfits, hunique, hholds, rfl⟩
    exact ⟨hfits, ⟨fun v hv => ⟨hv.2, hunique v hv.1 hv.2⟩, hholds⟩, rfl⟩

/-- A user who is written stands in the place of the one with the same id, with
the time of the last change that goes with it. -/
theorem writeUser_eq_ok {now : Instant} {u old : User} (hids : (s.users.map (·.id)).Nodup)
    (hold : old ∈ s.users) (h : s.writeUser now u = .ok s') (hid : u.id = old.id) :
    ∃ stamp, ({ u with updatedAt := stamp } = old ∨
        stamp = now ∧ (∀ n ∈ [u.coins, u.gems], leastStored ≤ n ∧ n ≤ greatestStored) ∧
          0 ≤ u.coins ∧ 0 ≤ u.gems) ∧
      s' = { s with users := Rows.put (·.id) { u with updatedAt := stamp } s.users } := by
  unfold writeUser at h
  rw [(user?_eq_some_iff hids).2 ⟨hold, hid.symm⟩] at h
  by_cases hsame : { u with updatedAt := old.updatedAt } = old
  · simp only [hsame, if_true] at h
    -- Nothing would change but the time, so nothing is written.
    cases h
    refine ⟨old.updatedAt, .inl hsame, ?_⟩
    rw [hsame, Rows.put_of_mem hids hold]
  · simp only [hsame, if_false] at h
    -- The row is replaced, with the time of now.
    obtain ⟨hfits, -, hholds, rfl⟩ := replaceUser_eq_ok.1 h
    exact ⟨now, .inr ⟨rfl, hfits, hholds⟩, rfl⟩

/-! ### Items -/

theorem itemIsUnique_iff {others : List Item} {i : Item} :
    itemIsUnique others i = true ↔
      ∀ j ∈ others, j.id ≠ i.id ∧ (j.name, j.slot) ≠ (i.name, i.slot) ∧ j.imageId ≠ i.imageId := by
  simp [itemIsUnique, and_assoc]

theorem insertItem_eq_ok {i : Item} :
    s.insertItem i = .ok s' ↔
      (∀ n ∈ itemNumbers i, leastStored ≤ n ∧ n ≤ greatestStored) ∧
        (∀ j ∈ s.items,
          j.id ≠ i.id ∧ (j.name, j.slot) ≠ (i.name, i.slot) ∧ j.imageId ≠ i.imageId) ∧
        s' = { s with items := s.items ++ [i] } := by
  unfold insertItem
  simp only [Except.bind_eq_ok, checkFits_eq_ok, checkConstraint_eq_ok,
    itemIsUnique_iff, exists_const]
  constructor
  · rintro ⟨hfits, hunique, ⟨⟩⟩
    exact ⟨hfits, hunique, rfl⟩
  · rintro ⟨hfits, hunique, rfl⟩
    exact ⟨hfits, hunique, rfl⟩

/-- Putting an item in the place of the one with the same id. -/
theorem replaceItem_eq_ok {i : Item} :
    s.replaceItem i.id i = .ok s' ↔
      (∀ n ∈ itemNumbers i, leastStored ≤ n ∧ n ≤ greatestStored) ∧
        (∀ j ∈ s.items, j.id ≠ i.id →
          (j.name, j.slot) ≠ (i.name, i.slot) ∧ j.imageId ≠ i.imageId) ∧
        s' = { s with items := Rows.put (·.id) i s.items } := by
  unfold replaceItem Rows.put
  simp only [Except.bind_eq_ok, checkFits_eq_ok, checkConstraint_eq_ok,
    Bool.and_eq_true, itemIsUnique_iff, exists_const, List.mem_filter, bne_iff_ne,
    beq_self_eq_true, Bool.true_or, and_true, beq_iff_eq]
  constructor
  · rintro ⟨hfits, hunique, ⟨⟩⟩
    exact ⟨hfits, fun j hj hne => (hunique j ⟨hj, hne⟩).2, rfl⟩
  · rintro ⟨hfits, hunique, rfl⟩
    exact ⟨hfits, fun j hj => ⟨hj.2, hunique j hj.1 hj.2⟩, rfl⟩

/-- An item that is written stands in the place of the one with the same id, with
the time of the last change that goes with it. -/
theorem writeItem_eq_ok {now : Instant} {i old : Item} (hids : (s.items.map (·.id)).Nodup)
    (hold : old ∈ s.items) (h : s.writeItem now i = .ok s') (hid : i.id = old.id) :
    ∃ stamp, ({ i with updatedAt := stamp } = old ∨
        stamp = now ∧ (∀ n ∈ itemNumbers i, leastStored ≤ n ∧ n ≤ greatestStored) ∧
          ∀ j ∈ s.items, j.id ≠ i.id →
            (j.name, j.slot) ≠ (i.name, i.slot) ∧ j.imageId ≠ i.imageId) ∧
      s' = { s with items := Rows.put (·.id) { i with updatedAt := stamp } s.items } := by
  unfold writeItem at h
  rw [(item?_eq_some_iff hids).2 ⟨hold, hid.symm⟩] at h
  by_cases hsame : { i with updatedAt := old.updatedAt } = old
  · simp only [hsame, if_true] at h
    cases h
    refine ⟨old.updatedAt, .inl hsame, ?_⟩
    rw [hsame, Rows.put_of_mem hids hold]
  · simp only [hsame, if_false] at h
    obtain ⟨hfits, hunique, rfl⟩ := replaceItem_eq_ok.1 h
    exact ⟨now, .inr ⟨rfl, hfits, hunique⟩, rfl⟩

/-! ### Possessions -/

theorem possessionRefers_iff {p : Possession} :
    s.possessionRefers p = true ↔
      (∃ u ∈ s.users, u.id = p.userId) ∧ ∃ i ∈ s.items, i.id = p.itemId := by
  rw [possessionRefers, Bool.and_eq_true, user?_isSome_iff, item?_isSome_iff]

theorem insertPossession_eq_ok {p : Possession} :
    s.insertPossession p = .ok s' ↔
      (∀ q ∈ s.possessions, q.key ≠ p.key) ∧
        ((∃ u ∈ s.users, u.id = p.userId) ∧ ∃ i ∈ s.items, i.id = p.itemId) ∧
        s' = { s with possessions := s.possessions ++ [p] } := by
  unfold insertPossession
  simp only [Except.bind_eq_ok, checkConstraint_eq_ok, Bool.and_eq_true, Option.isNone_iff_eq_none,
    possession?_eq_none_iff, possessionRefers_iff, exists_const]
  constructor
  · rintro ⟨⟨hfresh, hrefers⟩, ⟨⟩⟩
    exact ⟨hfresh, hrefers, rfl⟩
  · rintro ⟨hfresh, hrefers, rfl⟩
    exact ⟨⟨hfresh, hrefers⟩, rfl⟩

theorem deletePossession_eq (s : Store) (u i : String) :
    s.deletePossession u i = { s with possessions := s.possessions.filter (·.key ≠ (u, i)) } := by
  unfold deletePossession
  congr 1
  refine List.filter_congr fun p _ => ?_
  rw [Bool.eq_iff_iff, Bool.not_eq_true', ← Bool.not_eq_true, isKey_iff, decide_eq_true_iff]

theorem writePossession_eq (s : Store) (p : Possession) :
    s.writePossession p = { s with possessions := Rows.put Possession.key p s.possessions } := by
  unfold writePossession Rows.put
  simp only [isKey_iff]
  rfl

/-! ### Statistics -/

theorem insertStats_eq_ok {row : Stats} :
    s.insertStats row = .ok s' ↔
      (∀ n ∈ statsNumbers row, leastStored ≤ n ∧ n ≤ greatestStored) ∧
        (∀ old ∈ s.stats, old.id ≠ row.id) ∧ (∃ u ∈ s.users, u.id = row.userId) ∧
        s' = { s with stats := s.stats ++ [row] } := by
  unfold insertStats
  simp only [Except.bind_eq_ok, checkFits_eq_ok, checkConstraint_eq_ok, Bool.and_eq_true,
    Bool.not_eq_true', List.any_eq_false, beq_iff_eq, user?_isSome_iff, exists_const]
  constructor
  · rintro ⟨hfits, ⟨hfresh, hrefers⟩, ⟨⟩⟩
    exact ⟨hfits, hfresh, hrefers, rfl⟩
  · rintro ⟨hfits, hfresh, hrefers, rfl⟩
    exact ⟨hfits, ⟨hfresh, hrefers⟩, rfl⟩

theorem writeStats_eq_ok {row : Stats} :
    s.writeStats row = .ok s' ↔
      (∀ n ∈ statsNumbers row, leastStored ≤ n ∧ n ≤ greatestStored) ∧
        s' = { s with stats := Rows.put (·.id) row s.stats } := by
  unfold writeStats Rows.put
  simp only [Except.bind_eq_ok, checkFits_eq_ok, beq_iff_eq, exists_const]
  constructor
  · rintro ⟨hfits, ⟨⟩⟩
    exact ⟨hfits, rfl⟩
  · rintro ⟨hfits, rfl⟩
    exact ⟨hfits, rfl⟩

/-! ### News -/

theorem newsIsUnique_iff {others : List News} {n : News} :
    newsIsUnique others n = true ↔ ∀ m ∈ others, m.id ≠ n.id ∧ m.title ≠ n.title := by
  simp [newsIsUnique]

theorem insertNews_eq_ok {n : News} :
    s.insertNews n = .ok s' ↔
      (∀ m ∈ s.news, m.id ≠ n.id ∧ m.title ≠ n.title) ∧
        s' = { s with news := s.news ++ [n] } := by
  unfold insertNews
  simp only [Except.bind_eq_ok, checkConstraint_eq_ok, newsIsUnique_iff,
    exists_const]
  constructor
  · rintro ⟨hunique, ⟨⟩⟩
    exact ⟨hunique, rfl⟩
  · rintro ⟨hunique, rfl⟩
    exact ⟨hunique, rfl⟩

/-- An announcement that is written stands in the place of the one with the same
id. -/
theorem writeNews_eq_ok {n : News} :
    s.writeNews n = .ok s' ↔
      (∀ m ∈ s.news, m.id ≠ n.id → m.title ≠ n.title) ∧
        s' = { s with news := Rows.put (·.id) n s.news } := by
  unfold writeNews replaceNews Rows.put
  simp only [Except.bind_eq_ok, checkConstraint_eq_ok, newsIsUnique_iff,
    exists_const, List.mem_filter, bne_iff_ne, beq_iff_eq]
  constructor
  · rintro ⟨hunique, ⟨⟩⟩
    exact ⟨fun m hm hne => (hunique m ⟨hm, hne⟩).2, rfl⟩
  · rintro ⟨hunique, rfl⟩
    exact ⟨fun m hm => ⟨hm.2, hunique m hm.1 hm.2⟩, rfl⟩

end Store

end Guildhall
