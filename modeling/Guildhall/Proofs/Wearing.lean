/-
Guildhall/Proofs/Wearing.lean

Putting an item on, as one change of the possessions.  A row that is put in
the place of the one with its key differs from it in its flag at most, so
taking off what is worn and putting on one item comes down to a new flag for
every possession (`wear_eq`).
-/
import Guildhall.Proofs.Statement
import Guildhall.Wardrobe

namespace Guildhall

/-- A possession with another flag. -/
def Possession.flagged (p : Possession) (worn : Bool) : Possession := { p with equipped := worn }

theorem Possession.flagged_key (p : Possession) (worn : Bool) : (p.flagged worn).key = p.key := rfl

theorem Possession.flagged_equipped (p : Possession) : p.flagged p.equipped = p := rfl

/-- A possession is its key and its flag. -/
theorem Possession.flagged_eq {p q : Possession} (h : p.key = q.key) (worn : Bool) :
    p.flagged worn = q.flagged worn := by
  obtain ⟨huser, hitem⟩ := Prod.mk.inj h
  cases p
  cases q
  cases huser
  cases hitem
  rfl

namespace Wardrobe

variable {s : Store} {slot : List Possession} {target : Possession}

/-- Whether a possession is worn after some have been taken off and one has been
put on. -/
def wornAfter (slot : List Possession) (target p : Possession) : Bool :=
  if p.key = target.key then true
  else if ∃ q ∈ slot, q.equipped = true ∧ q.key = p.key then false
  else p.equipped

/-- Setting the flag of a possession. -/
theorem writePossession_flagged (s : Store) (q : Possession) (worn : Bool) :
    s.writePossession (q.flagged worn) =
      { s with possessions :=
          s.possessions.map fun p => if p.key = q.key then p.flagged worn else p } := by
  rw [Store.writePossession_eq]
  unfold Rows.put
  congr 1
  apply List.map_congr_left
  intro p _
  rw [Possession.flagged_key]
  by_cases h : p.key = q.key
  · rw [if_pos h, if_pos h, Possession.flagged_eq h]
  · rw [if_neg h, if_neg h]

/-- Taking off some possessions. -/
theorem takeOff_eq (s : Store) (qs : List Possession) :
    qs.foldl (fun s q => s.writePossession (q.flagged false)) s =
      { s with possessions :=
          s.possessions.map fun p => if ∃ q ∈ qs, q.key = p.key then p.flagged false else p } := by
  induction qs generalizing s with
  | nil => simp
  | cons q qs ih =>
    rw [List.foldl_cons, ih, writePossession_flagged]
    congr 1
    rw [List.map_map]
    apply List.map_congr_left
    intro p _
    -- A row whose flag is set twice gets the same flag both times.
    by_cases hq : p.key = q.key
    · by_cases hqs : ∃ r ∈ qs, r.key = p.key <;> simp [hq, Possession.flagged]
    · by_cases hqs : ∃ r ∈ qs, r.key = p.key <;> simp [hq, hqs, Ne.symm hq]

/-- Putting an item on sets the flag of every possession anew. -/
theorem wear_eq (s : Store) (slot : List Possession) (target : Possession) :
    wear s slot target =
      { s with possessions := s.possessions.map fun p => p.flagged (wornAfter slot target p) } := by
  show (List.foldl (fun (s : Store) q => s.writePossession (Possession.flagged q false)) s
    (slot.filter (·.equipped))).writePossession (target.flagged true) = _
  rw [takeOff_eq, writePossession_flagged]
  congr 1
  rw [List.map_map]
  apply List.map_congr_left
  intro p _
  -- What is taken off is what is worn in the slot.
  have hslot : (∃ q ∈ slot.filter (·.equipped), q.key = p.key) ↔
      ∃ q ∈ slot, q.equipped = true ∧ q.key = p.key := by
    simp only [List.mem_filter, and_assoc]
  rw [Function.comp_apply, wornAfter]
  simp only [hslot]
  -- The target is put on last, so it is worn even if it was taken off before.
  by_cases hoff : ∃ q ∈ slot, q.equipped = true ∧ q.key = p.key
  · rw [if_pos hoff, Possession.flagged_key]
    by_cases hon : p.key = target.key
    · rw [if_pos hon, if_pos hon]
      rfl
    · rw [if_neg hon, if_neg hon, if_pos hoff]
  · rw [if_neg hoff]
    by_cases hon : p.key = target.key
    · rw [if_pos hon, if_pos hon]
    · rw [if_neg hon, if_neg hon, if_neg hoff, Possession.flagged_equipped]

end Wardrobe

end Guildhall
