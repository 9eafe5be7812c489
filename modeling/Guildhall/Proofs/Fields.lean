/-
Guildhall/Proofs/Fields.lean

Fields by name.  Adding fields is the same as looking first among the new ones, the last one
of a name counting, and then among the old ones:

    (add new old).lookup name  =  (new.reverse.lookup name).or (old.lookup name)

Fields that are added have different names if the old ones have.

Main statements: `lookup_add` and `nodup_add`.
-/
import Guildhall.Journal.Context
import Mathlib.Data.List.Nodup

namespace Guildhall

variable {α β : Type} {key : String}

/-- What is found is there. -/
theorem mem_of_lookup {v : α} {l : List (String × α)}
    (h : l.lookup key = some v) : (key, v) ∈ l := by
  induction l with
  | nil => cases h
  | cons f l ih =>
    rw [List.lookup_cons] at h
    by_cases hkey : key = f.1
    · rw [hkey, beq_self_eq_true] at h
      cases h
      rw [hkey]
      exact List.mem_cons_self
    · rw [beq_eq_false_iff_ne.2 hkey] at h
      exact List.mem_cons_of_mem _ (ih h)

theorem lookup_eq_none_of_not_mem {l : List (String × α)} (h : key ∉ l.map Prod.fst) :
    l.lookup key = none := by
  rw [List.lookup_eq_none_iff]
  intro f hf
  exact bne_iff_ne.2 fun heq => h (List.mem_map.2 ⟨f, hf, heq.symm⟩)

/-- What is there under a name of its own is found. -/
theorem lookup_of_mem {v : α} {l : List (String × α)} (hnodup : (l.map Prod.fst).Nodup)
    (h : (key, v) ∈ l) : l.lookup key = some v := by
  induction l with
  | nil => cases h
  | cons f l ih =>
    obtain ⟨hnew, hrest⟩ := List.nodup_cons.1 hnodup
    rw [List.lookup_cons]
    rcases List.mem_cons.1 h with rfl | hin
    · rw [beq_self_eq_true]
    · have hne : key ≠ f.1 := fun heq => hnew (heq ▸ List.mem_map_of_mem hin)
      rw [beq_eq_false_iff_ne.2 hne]
      exact ih hrest hin

/-- Looking up where the values were changed. -/
theorem lookup_mapValues (g : String → α → β) (fields : List (String × α)) (key : String) :
    (fields.map fun f => (f.1, g f.1 f.2)).lookup key = (fields.lookup key).map (g key) := by
  induction fields with
  | nil => rfl
  | cons f fields ih =>
    rw [List.map_cons, List.lookup_cons, List.lookup_cons]
    by_cases h : key = f.1
    · rw [h, beq_self_eq_true]
      rfl
    · rw [beq_eq_false_iff_ne.2 h]
      exact ih

/-- Looking up where only some names were left. -/
theorem lookup_filterNames (keep : String → Bool) (fields : List (String × α)) (key : String) :
    (fields.filter fun f => keep f.1).lookup key =
      if keep key then fields.lookup key else none := by
  induction fields with
  | nil => rw [List.filter_nil, List.lookup_nil, ite_self]
  | cons f fields ih =>
    rw [List.lookup_cons]
    by_cases hname : key = f.1
    · rw [hname] at ih ⊢
      by_cases hkeep : keep f.1 = true
      · rw [List.filter_cons_of_pos (p := fun f : String × α => keep f.1) hkeep,
          List.lookup_cons, beq_self_eq_true, if_pos hkeep]
      · rw [List.filter_cons_of_neg (p := fun f : String × α => keep f.1) hkeep, ih,
          if_neg hkeep, if_neg hkeep]
    · rw [beq_eq_false_iff_ne.2 hname]
      by_cases hkeep : keep f.1 = true
      · rw [List.filter_cons_of_pos (p := fun f : String × α => keep f.1) hkeep,
          List.lookup_cons, beq_eq_false_iff_ne.2 hname]
        exact ih
      · rw [List.filter_cons_of_neg (p := fun f : String × α => keep f.1) hkeep]
        exact ih

/-- Looking up where only some values were left. -/
theorem lookup_filterValues (keep : α → Bool) {fields : List (String × α)}
    (h : (fields.map Prod.fst).Nodup) (key : String) :
    (fields.filter fun f => keep f.2).lookup key = (fields.lookup key).filter keep := by
  induction fields with
  | nil => rfl
  | cons f fields ih =>
    obtain ⟨hnew, hrest⟩ := List.nodup_cons.1 h
    have ih := ih hrest
    rw [List.lookup_cons]
    -- The names differ, so a field that is left out is the only one of its name.
    by_cases hname : key = f.1
    · rw [hname] at ih ⊢
      rw [beq_self_eq_true, Option.filter_some]
      by_cases hkeep : keep f.2 = true
      · rw [List.filter_cons_of_pos (p := fun f : String × α => keep f.2) hkeep, if_pos hkeep,
          List.lookup_cons, beq_self_eq_true]
      · rw [List.filter_cons_of_neg (p := fun f : String × α => keep f.2) hkeep, ih,
          lookup_eq_none_of_not_mem hnew, if_neg hkeep, Option.filter_none]
    · rw [beq_eq_false_iff_ne.2 hname]
      by_cases hkeep : keep f.2 = true
      · rw [List.filter_cons_of_pos (p := fun f : String × α => keep f.2) hkeep,
          List.lookup_cons, beq_eq_false_iff_ne.2 hname]
        exact ih
      · rw [List.filter_cons_of_neg (p := fun f : String × α => keep f.2) hkeep]
        exact ih

/-- Looking up where each name has its value. -/
theorem lookup_names (g : String → α) (names : List String) (key : String) :
    (names.map fun name => (name, g name)).lookup key =
      if key ∈ names then some (g key) else none := by
  induction names with
  | nil => rfl
  | cons name names ih =>
    rw [List.map_cons, List.lookup_cons]
    by_cases h : key = name
    · rw [h, beq_self_eq_true, if_pos List.mem_cons_self]
    · rw [beq_eq_false_iff_ne.2 h]
      refine ih.trans ?_
      by_cases hmem : key ∈ names
      · rw [if_pos hmem, if_pos (List.mem_cons_of_mem _ hmem)]
      · rw [if_neg hmem, if_neg fun hin => (List.mem_cons.1 hin).elim h hmem]

namespace Journal.Fields

/-- **What holds after fields were added**: of the new ones the last of a name, and otherwise
what held before. -/
theorem lookup_add (new old : Fields) (key : String) :
    (add new old).lookup key = (new.reverse.lookup key).or (old.lookup key) := by
  induction new generalizing old with
  | nil => rfl
  | cons f new ih =>
    obtain ⟨name, v⟩ := f
    show (add new (Value.put name v old)).lookup key = _
    rw [ih, Value.lookup_put, List.reverse_cons, List.lookup_append, Option.or_assoc,
      List.lookup_cons, List.lookup_nil]
    by_cases h : key = name
    · rw [if_pos h, h, beq_self_eq_true, Option.some_or]
    · rw [if_neg h, beq_eq_false_iff_ne.2 h, Option.none_or]

theorem names_put (name : String) (v : Value) (fields : Fields) :
    (Value.put name v fields).map Prod.fst =
      if name ∈ fields.map Prod.fst then fields.map Prod.fst
      else fields.map Prod.fst ++ [name] := by
  induction fields with
  | nil => rfl
  | cons f fields ih =>
    obtain ⟨old, w⟩ := f
    by_cases h : old = name
    · rw [Value.put, if_pos h, h, List.map_cons, List.map_cons, if_pos List.mem_cons_self]
    · rw [Value.put, if_neg h, List.map_cons, ih, List.map_cons]
      by_cases hmem : name ∈ fields.map Prod.fst
      · rw [if_pos hmem, if_pos (List.mem_cons_of_mem _ hmem)]
      · rw [if_neg hmem, if_neg fun hin => (List.mem_cons.1 hin).elim (Ne.symm h) hmem,
          List.cons_append]

/-- Fields that are added to fields with different names have different names. -/
theorem nodup_add {new old : Fields} (h : (old.map Prod.fst).Nodup) :
    ((add new old).map Prod.fst).Nodup := by
  induction new generalizing old with
  | nil => exact h
  | cons f new ih =>
    refine ih ?_
    rw [names_put]
    split
    · exact h
    · rename_i hnew
      exact List.nodup_append.2 ⟨h, List.nodup_singleton _, fun a ha b hb hab =>
        hnew (List.mem_singleton.1 hb ▸ hab ▸ ha)⟩

end Journal.Fields

end Guildhall
