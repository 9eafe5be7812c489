/-
Guildhall/Proofs/JsonNumber.lean

The numbers in JSON.  A whole number is read only if it has no more digits than can be
written, so whatever is read can be written, its whole numbers at every depth:

    readDecoded cs torn = .ok v  →  v.isWritable = true

The proof is an induction on the depth of the reader, for values, the items of a list and
the fields of an object at once; what has been read already is kept beside what comes next.

Main statement: `isWritable_readDecoded`.
-/
import Guildhall.Json.Reader
import Guildhall.Proofs.Numeral
import Guildhall.Proofs.Statement

namespace Guildhall

open Number Text

/-! ### Values that can be written -/

namespace Value

theorem areWritable_iff {items : List Value} :
    areWritable items = true ↔ ∀ v ∈ items, v.isWritable = true := by
  induction items with
  | nil => exact iff_of_true rfl nofun
  | cons v rest ih => rw [areWritable, Bool.and_eq_true, ih, List.forall_mem_cons]

theorem haveWritable_iff {fields : List (String × Value)} :
    haveWritable fields = true ↔ ∀ field ∈ fields, field.2.isWritable = true := by
  induction fields with
  | nil => exact iff_of_true rfl nofun
  | cons field rest ih =>
    obtain ⟨name, v⟩ := field
    rw [haveWritable, Bool.and_eq_true, ih, List.forall_mem_cons]

/-- A field that is set can be written if its value can. -/
theorem haveWritable_put {fields : List (String × Value)} {name : String} {v : Value}
    (hfields : haveWritable fields = true) (hv : v.isWritable = true) :
    haveWritable (put name v fields) = true := by
  induction fields with
  | nil =>
    rw [put, haveWritable, hv]
    rfl
  | cons field rest ih =>
    obtain ⟨key, old⟩ := field
    rw [haveWritable, Bool.and_eq_true] at hfields
    rw [put]
    split
    · rw [haveWritable, hv, hfields.2]
      rfl
    · rw [haveWritable, hfields.1, ih hfields.2]
      rfl

mutual

/-- Halves of pairs are no matter of numbers. -/
theorem isWritable_tear : (v : Value) → v.tear.isWritable = v.isWritable
  | .text s => by
    unfold tear ofReading
    split <;> rfl
  | .list items => areWritable_tear items
  | .object fields => haveWritable_tear fields
  | .null | .bool _ | .int _ | .float _ | .torn _ | .bytes _ => rfl

theorem areWritable_tear : (items : List Value) → areWritable (tearItems items) = areWritable items
  | [] => rfl
  | v :: rest => by
    rw [tearItems, areWritable, areWritable, isWritable_tear v, areWritable_tear rest]

theorem haveWritable_tear : (fields : List (String × Value)) →
    haveWritable (tearFields fields) = haveWritable fields
  | [] => rfl
  | (name, v) :: rest => by
    rw [tearFields, haveWritable, haveWritable, isWritable_tear v, haveWritable_tear rest]

end

theorem isWritable_signed {negative : Bool} {n : Nat} (h : n < 10 ^ Numeral.digitLimit) :
    (int (if negative then -(n : Int) else n)).isWritable = true := by
  rw [isWritable, Numeral.isWritable_iff]
  cases negative with
  | true => rwa [if_pos rfl, Int.natAbs_neg, Int.natAbs_natCast]
  | false => rwa [if_neg Bool.false_ne_true, Int.natAbs_natCast]

end Value

namespace Json

/-! ### Readers -/

variable {cs rest : List Char} {v : Value}

/-- A whole number is read from a few digits. -/
theorem isWritable_readUnsigned {start : List Char} {negative : Bool}
    (h : readUnsigned start negative cs = .ok (v, rest)) : v.isWritable = true := by
  cases cs with
  | nil => cases h
  | cons first cs =>
    unfold readUnsigned at h
    dsimp only at h
    generalize (if first == '0' then ['0'] else (first :: cs).takeWhile Char.isDigit) = whole at h
    cases hdigit : first.isDigit with
    | false =>
      rw [hdigit] at h
      cases h
    | true =>
      rw [hdigit] at h
      cases hfraction : fraction? ((first :: cs).drop whole.length) with
      | some fraction =>
        rw [hfraction] at h
        cases h
        rfl
      | none =>
        rw [hfraction] at h
        dsimp only at h
        cases hexponent : exponent? ((first :: cs).drop whole.length) with
        | some exponent =>
          rw [hexponent] at h
          cases h
          rfl
        | none =>
          rw [hexponent, List.append_nil] at h
          -- Without a fraction and an exponent it is a whole number.
          change (if whole.length > Numeral.digitLimit then _ else _) = _ at h
          split at h
          · cases h
          · rename_i hlength
            cases h
            exact Value.isWritable_signed (Numeral.readDigits_lt_limit (Nat.not_lt.1 hlength))

theorem isWritable_readScalar (h : readScalar cs = .ok (v, rest)) : v.isWritable = true := by
  unfold readScalar at h
  -- The words are no numbers.
  iterate 6
    split at h
    · cases h
      rfl
  split at h
  · exact isWritable_readUnsigned h
  · exact isWritable_readUnsigned h

/-- The readers of a depth read what can be written, if what they have read already can. -/
structure ReadsWritable (depth : Nat) : Prop where
  value {room : Nat} {cs rest : List Char} {v : Value} :
    readValue depth room cs = .ok (v, rest) → v.isWritable = true
  items {room : Nat} {items : List Value} {cs rest : List Char} {v : Value} :
    Value.areWritable items = true → readItems depth room items cs = .ok (v, rest) →
      v.isWritable = true
  fields {room : Nat} {fields : List (String × Value)} {cs rest : List Char} {v : Value} :
    Value.haveWritable fields = true → readFields depth room fields cs = .ok (v, rest) →
      v.isWritable = true

namespace ReadsWritable

variable {depth room : Nat}

theorem readValue (ih : ReadsWritable depth) (h : readValue (depth + 1) room cs = .ok (v, rest)) :
    v.isWritable = true := by
  unfold Json.readValue at h
  split at h
  · obtain ⟨⟨s, torn, after⟩, -, h⟩ := Except.bind_eq_ok.1 h
    cases h
    cases torn <;> rfl
  · cases h
  · cases h
  · split at h
    · cases h
      rfl
    · exact ih.items rfl h
  · split at h
    · cases h
      rfl
    · exact ih.fields rfl h
  · exact isWritable_readScalar h

theorem readItems (ih : ReadsWritable depth) {items : List Value}
    (hitems : Value.areWritable items = true)
    (h : readItems (depth + 1) room items cs = .ok (v, rest)) : v.isWritable = true := by
  unfold Json.readItems at h
  obtain ⟨⟨item, after⟩, hread, h⟩ := Except.bind_eq_ok.1 h
  have hmore : Value.areWritable (item :: items) = true := by
    rw [Value.areWritable, ih.value hread, hitems]
    rfl
  dsimp only at h
  split at h
  · cases h
    rw [Value.isWritable, Value.areWritable_iff]
    exact fun w hw => Value.areWritable_iff.1 hmore w (List.mem_reverse.1 hw)
  · exact ih.items hmore h
  · cases h

theorem readFields (ih : ReadsWritable depth) {fields : List (String × Value)}
    (hfields : Value.haveWritable fields = true)
    (h : readFields (depth + 1) room fields cs = .ok (v, rest)) : v.isWritable = true := by
  unfold Json.readFields at h
  split at h
  · obtain ⟨⟨name, torn, after⟩, -, h⟩ := Except.bind_eq_ok.1 h
    dsimp only at h
    split at h
    · obtain ⟨⟨field, after⟩, hread, h⟩ := Except.bind_eq_ok.1 h
      have hmore : Value.haveWritable (Value.put name field fields) = true :=
        Value.haveWritable_put hfields (ih.value hread)
      dsimp only at h
      split at h
      · cases h
        exact hmore
      · exact ih.fields hmore h
      · cases h
    · cases h
  · cases h

end ReadsWritable

/-- The readers of every depth read what can be written. -/
theorem readsWritable (depth : Nat) : ReadsWritable depth := by
  induction depth with
  | zero => exact ⟨nofun, nofun, nofun⟩
  | succ depth ih => exact ⟨ih.readValue, ih.readItems, ih.readFields⟩

/-- **What is read can be written.** -/
theorem isWritable_readDecoded {torn : Bool} (h : readDecoded cs torn = .ok v) :
    v.isWritable = true := by
  obtain ⟨w, hw, h⟩ := Except.bind_eq_ok.1 h
  obtain ⟨⟨u, rest⟩, hread, hw⟩ := Except.bind_eq_ok.1 hw
  have hu := (readsWritable _).value hread
  dsimp only at hw
  split at hw
  · cases hw
    cases h
    cases torn with
    | true => exact (Value.isWritable_tear _).trans hu
    | false => exact hu
  · cases hw

end Json

end Guildhall
