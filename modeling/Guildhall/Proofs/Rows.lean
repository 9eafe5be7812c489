/-
Guildhall/Proofs/Rows.lean

Rows with a key, kept in a list.  A row is added at the end, put in the
place of the one with its key (`put`), or removed by a filter; each of the
three keeps a column unique as long as the new value is not in use
elsewhere.  In a list with unique keys, looking a row up by its key finds
it (`find?_of_mem`), and after `put` it finds the new one.
-/
import Mathlib.Data.List.Nodup

namespace Guildhall.Rows

variable {α β κ : Type} [DecidableEq κ] {k : α → κ} {g : α → β} {l : List α} {x y : α}

/-- A list in which a row stands in the place of the one with its key. -/
def put (k : α → κ) (x : α) (l : List α) : List α := l.map fun y => if k y = k x then x else y

/-! ### Membership -/

theorem mem_put (hy : y ∈ put k x l) : y = x ∨ y ∈ l ∧ k y ≠ k x := by
  obtain ⟨z, hz, rfl⟩ := List.mem_map.1 hy
  by_cases h : k z = k x
  · rw [if_pos h]
    exact .inl rfl
  · rw [if_neg h]
    exact .inr ⟨hz, h⟩

/-- A row that is put in the place of one stands there. -/
theorem mem_put_of_mem (hy : y ∈ l) (h : k y = k x) : x ∈ put k x l :=
  List.mem_map.2 ⟨y, hy, if_pos h⟩

/-- A column that the new row shares with the old one is unchanged. -/
theorem map_put (h : ∀ y ∈ l, k y = k x → g y = g x) : (put k x l).map g = l.map g := by
  unfold put
  rw [List.map_map]
  apply List.map_congr_left
  intro y hy
  by_cases hk : k y = k x
  · simp [hk, h y hy hk]
  · simp [hk]

theorem map_key_put : (put k x l).map k = l.map k := map_put fun _ _ h => h

/-- Rows that are passed over may be changed, as long as they are passed over still. -/
theorem filter_map_eq {f : α → α} {q : α → Bool} (hq : ∀ y ∈ l, q (f y) = q y)
    (hf : ∀ y ∈ l, q y = true → f y = y) : (l.map f).filter q = l.filter q := by
  have hfixed : ∀ y ∈ l.filter q, f y = id y := by
    intro y hy
    obtain ⟨hy, hpass⟩ := List.mem_filter.1 hy
    exact hf y hy hpass
  rw [List.filter_map, Function.comp_def, List.filter_congr hq, List.map_congr_left hfixed,
    List.map_id]

/-- Of two rows that are put in one place, the second one stays. -/
theorem put_put (h : k y = k x) : put k x (put k y l) = put k x l := by
  unfold put
  rw [List.map_map]
  apply List.map_congr_left
  intro z hz
  by_cases hk : k z = k x
  · simp [hk, h]
  · simp [hk, h]

/-! ### Unique columns -/

omit [DecidableEq κ] in
theorem eq_of_key (hk : (l.map k).Nodup) (hx : x ∈ l) (hy : y ∈ l) (h : k x = k y) : x = y :=
  List.inj_on_of_nodup_map hk hx hy h

/-- Putting a row where it stands changes nothing. -/
theorem put_of_mem (hk : (l.map k).Nodup) (hx : x ∈ l) : put k x l = l := by
  unfold put
  rw [List.map_congr_left, List.map_id]
  intro y hy
  by_cases h : k y = k x
  · rw [if_pos h]
    exact (eq_of_key hk hy hx h).symm
  · exact if_neg h

theorem nodup_append (hg : (l.map g).Nodup) (hx : ∀ y ∈ l, g y ≠ g x) :
    ((l ++ [x]).map g).Nodup := by
  rw [List.map_append, List.map_singleton, List.nodup_append]
  refine ⟨hg, List.nodup_singleton _, ?_⟩
  intro b hb c hc hbc
  obtain ⟨y, hy, rfl⟩ := List.mem_map.1 hb
  exact hx y hy (hbc.trans (List.mem_singleton.1 hc))

theorem nodup_filter (p : α → Bool) (hg : (l.map g).Nodup) : ((l.filter p).map g).Nodup :=
  hg.sublist (List.filter_sublist.map g)

theorem nodup_put (hk : (l.map k).Nodup) (hg : (l.map g).Nodup)
    (hx : ∀ y ∈ l, k y ≠ k x → g y ≠ g x) : ((put k x l).map g).Nodup := by
  unfold put
  rw [List.Nodup, List.pairwise_map] at hk hg
  rw [List.Nodup, List.pairwise_map, List.pairwise_map]
  refine (hk.and hg).imp_of_mem ?_
  rintro y z hy hz ⟨hkey, hval⟩
  -- Keys are unique, so at most one of the two rows makes room for the new one.
  by_cases hyx : k y = k x
  · have hzx : k z ≠ k x := fun h => hkey (hyx.trans h.symm)
    rw [if_pos hyx, if_neg hzx]
    exact (hx z hz hzx).symm
  · rw [if_neg hyx]
    by_cases hzx : k z = k x
    · rw [if_pos hzx]
      exact hx y hy hyx
    · rw [if_neg hzx]
      exact hval

omit [DecidableEq κ] in
/-- A list without repetition has one element at most if all of them are equal. -/
theorem length_le_one_iff (hl : l.Nodup) : l.length ≤ 1 ↔ ∀ x ∈ l, ∀ y ∈ l, x = y := by
  match l, hl with
  | [], _ => simp
  | [x], _ => simp
  | x :: y :: l, hl =>
    constructor
    · intro h
      exact absurd h (by simp)
    · intro h
      have hxy : x = y := h x (.head _) y (.tail _ (.head _))
      exact absurd (hxy ▸ List.mem_cons_self) (List.nodup_cons.1 hl).1

/-! ### Lookups -/

variable {p : α → Bool} {key : κ}

omit [DecidableEq κ] in
theorem find?_of_mem (hk : (l.map k).Nodup) (hp : ∀ y, p y = true ↔ k y = key) (hx : x ∈ l)
    (hkey : k x = key) : l.find? p = some x := by
  obtain ⟨y, hy⟩ := Option.isSome_iff_exists.1 (List.find?_isSome.2 ⟨x, hx, (hp x).2 hkey⟩)
  have hky : k y = k x := ((hp y).1 (List.find?_some hy)).trans hkey.symm
  rw [hy, eq_of_key hk (List.mem_of_find?_eq_some hy) hx hky]

omit [DecidableEq κ] in
theorem find?_eq_some_iff (hk : (l.map k).Nodup) (hp : ∀ y, p y = true ↔ k y = key) :
    l.find? p = some x ↔ x ∈ l ∧ k x = key := by
  constructor
  · intro h
    exact ⟨List.mem_of_find?_eq_some h, (hp x).1 (List.find?_some h)⟩
  · rintro ⟨hx, hkey⟩
    exact find?_of_mem hk hp hx hkey

/-- Unique keys select one row. -/
theorem filter_key (hk : (l.map k).Nodup) (hx : x ∈ l) : l.filter (k · == k x) = [x] := by
  induction l with
  | nil => cases hx
  | cons y l ih =>
    rw [List.map_cons, List.nodup_cons] at hk
    rw [List.filter_cons]
    rcases List.mem_cons.1 hx with rfl | hx
    · -- No later row has the key of the first one.
      have hrest : l.filter (k · == k x) = [] := by
        rw [List.filter_eq_nil_iff]
        intro z hz hkey
        exact hk.1 (List.mem_map.2 ⟨z, hz, beq_iff_eq.1 hkey⟩)
      rw [beq_self_eq_true, if_pos rfl, hrest]
    · have hne : k y ≠ k x := fun h => hk.1 (h ▸ List.mem_map.2 ⟨x, hx, rfl⟩)
      rw [beq_false_of_ne hne, if_neg Bool.false_ne_true, ih hk.2 hx]

/-- After `put`, a lookup finds the new row under its key and what it found before
under any other one. -/
theorem find?_put (hp : ∀ y, p y = true ↔ k y = key) :
    (put k x l).find? p = if k x = key then (l.find? p).map fun _ => x else l.find? p := by
  unfold put
  rw [List.find?_map]
  -- The test looks at keys only, and `put` changes no key.
  have hcomp : (p ∘ fun y => if k y = k x then x else y) = p := by
    funext y
    by_cases hy : k y = k x
    · simp only [Function.comp_apply, hy, if_true]
      rw [Bool.eq_iff_iff, hp x, hp y, hy]
    · simp only [Function.comp_apply, hy, if_false]
  rw [hcomp]
  cases h : l.find? p with
  | none => simp
  | some y =>
    have hy : k y = key := (hp y).1 (List.find?_some h)
    by_cases hx : k x = key
    · simp [hx, hy]
    · simp [hx, hy, Ne.symm hx]

end Guildhall.Rows
