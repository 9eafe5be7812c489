/-
Guildhall/Proofs/Identity.lean

What stays of a user.  A user is written often, but only the balances and the
time of the last change are; everything else (`User.identity`) is as it was
when the user registered.  So what is checked at a registration holds of
every user from then on.

Main statements: `Deed.descends`, `Deed.keeps_user` and
`Chronicle.forall_identity`.
-/
import Guildhall.Proofs.Integrity

namespace Guildhall

/-- What a user is by: everything but the balances and the time of the last change. -/
structure Identity where
  id : String
  name : String
  email : String
  password : String
  isAdmin : Bool
  createdAt : Instant
  deriving DecidableEq, Repr

/-- What a user is by. -/
def User.identity (u : User) : Identity :=
  { id := u.id, name := u.name, email := u.email, password := u.password, isAdmin := u.isAdmin,
    createdAt := u.createdAt }

section Deeds

open Store

variable {m : Moment} {call : Call} {answer : Answer} {s s' : Store} {u : User}

/-- A user is still there after some events, or comes of a registration whose checks
have passed. -/
inductive Descends (m : Moment) (s : Store) (u : User) : Prop
  | stays {v : User} (hv : v ∈ s.users) (hidentity : u.identity = v.identity)
  | registers {id n e password : String} {s₁ : Store}
      (hinsert : s.insertUser (Registry.newcomer m.now id n e password) = .ok s₁)
      (hidentity : u.identity = (Registry.newcomer m.now id n e password).identity)

/-- A user after one has been written is that one, or another one as before. -/
theorem Descends.write {old new : User} (hs : s.Sound) (hold : old ∈ s.users)
    (h : s.writeUser m.now new = .ok s') (hidentity : new.identity = old.identity)
    (hu : u ∈ s'.users) : Descends m s u := by
  have hid : new.id = old.id := congrArg Identity.id hidentity
  obtain ⟨stamp, -, rfl⟩ := writeUser_eq_ok hs.userIds hold h hid
  rcases Rows.mem_put hu with rfl | ⟨hu, -⟩
  · exact .stays hold hidentity
  · exact .stays hu rfl

/-- **A deed leaves every user who was there what they were**; the only other users
are those who register. -/
theorem Deed.descends (hdeed : Deed m s call answer s') (hs : s.Sound) (hu : u ∈ s'.users) :
    Descends m s u := by
  cases hdeed with
  | look => exact .stays hu rfl
  | register _ _ _ _ _ huser hstats =>
    obtain ⟨-, -, -, rfl⟩ := insertUser_eq_ok.1 huser
    obtain ⟨-, -, -, rfl⟩ := insertStats_eq_ok.1 hstats
    rcases List.mem_append.1 hu with hu | hu
    · exact .stays hu rfl
    · -- This is the newcomer.
      obtain rfl := List.mem_singleton.1 hu
      exact .registers huser rfl
  | deleteUser => exact .stays (List.mem_filter.1 hu).1 rfl
  | grant _ _ _ huser _ _ hwrite => exact .write hs (mem_of_userByKey? huser) hwrite rfl hu
  | createItem _ _ _ _ _ _ _ _ _ _ hinsert =>
    obtain ⟨-, -, rfl⟩ := insertItem_eq_ok.1 hinsert
    exact .stays hu rfl
  | updateItem _ _ hitem _ hwrite =>
    obtain ⟨stamp, -, rfl⟩ := writeItem_eq_ok hs.itemIds (mem_of_item? hitem) hwrite rfl
    exact .stays hu rfl
  | deleteItem => exact .stays hu rfl
  | buy _ _ huser _ _ _ hwrite _ hinsert =>
    obtain ⟨-, -, rfl⟩ := insertPossession_eq_ok.1 hinsert
    exact .write hs (mem_of_user? huser) hwrite rfl hu
  | buyAgain _ _ huser _ _ _ hwrite => exact .write hs (mem_of_user? huser) hwrite rfl hu
  | throwAway _ _ huser _ _ hwrite => exact .write hs (mem_of_user? huser) hwrite rfl hu
  | equip =>
    split at hu
    · exact .stays hu rfl
    · -- What is worn is no matter of the users.
      rw [Wardrobe.wear_eq] at hu
      exact .stays hu rfl
  | addStats _ _ _ _ _ _ _ _ _ _ _ hwrite =>
    obtain ⟨-, rfl⟩ := writeStats_eq_ok.1 hwrite
    exact .stays hu rfl
  | createNews _ _ _ _ _ hinsert =>
    obtain ⟨-, rfl⟩ := insertNews_eq_ok.1 hinsert
    exact .stays hu rfl
  | updateNews _ _ _ _ _ _ hwrite =>
    obtain ⟨-, rfl⟩ := writeNews_eq_ok.1 hwrite
    exact .stays hu rfl

/-- Where a user is written, every user who was there is still what they were. -/
theorem Store.keeps_user_of_writeUser {old new : User} (hs : s.Sound) (hold : old ∈ s.users)
    (h : s.writeUser m.now new = .ok s') (hidentity : new.identity = old.identity)
    (hu : u ∈ s.users) : ∃ v ∈ s'.users, v.identity = u.identity := by
  have hid : new.id = old.id := congrArg Identity.id hidentity
  obtain ⟨stamp, -, rfl⟩ := writeUser_eq_ok hs.userIds hold h hid
  -- The row of the user is the one that is put in its place, or it is left alone.
  refine ⟨_, List.mem_map_of_mem hu, ?_⟩
  split
  · rename_i hsame
    obtain rfl : u = old := Rows.eq_of_key hs.userIds hu hold (hsame.trans hid)
    exact hidentity
  · rfl

/-- **A deed leaves every user there as they are**, unless it is the removal of that
user. -/
theorem Deed.keeps_user (hdeed : Deed m s call answer s') (hs : s.Sound) (hu : u ∈ s.users)
    (hstays : ∀ id, call = .deleteUser id → Input.identifier id "id" ≠ .ok u.id) :
    ∃ v ∈ s'.users, v.identity = u.identity := by
  have hsame : s'.users = s.users → ∃ v ∈ s'.users, v.identity = u.identity := fun h =>
    ⟨u, h ▸ hu, rfl⟩
  cases hdeed with
  | look => exact hsame rfl
  | register _ _ _ _ _ huser hstats =>
    obtain ⟨-, -, -, rfl⟩ := insertUser_eq_ok.1 huser
    obtain ⟨-, -, -, rfl⟩ := insertStats_eq_ok.1 hstats
    exact ⟨u, List.mem_append_left _ hu, rfl⟩
  | deleteUser hid =>
    have hne : u.id ≠ _ := fun h => hstays _ rfl (h ▸ hid)
    exact ⟨u, List.mem_filter.2 ⟨hu, bne_iff_ne.2 hne⟩, rfl⟩
  | grant _ _ _ huser _ _ hwrite =>
    exact keeps_user_of_writeUser hs (mem_of_userByKey? huser) hwrite rfl hu
  | createItem _ _ _ _ _ _ _ _ _ _ hinsert =>
    obtain ⟨-, -, rfl⟩ := insertItem_eq_ok.1 hinsert
    exact hsame rfl
  | updateItem _ _ hitem _ hwrite =>
    obtain ⟨stamp, -, rfl⟩ := writeItem_eq_ok hs.itemIds (mem_of_item? hitem) hwrite rfl
    exact hsame rfl
  | deleteItem => exact hsame rfl
  | buy _ _ huser _ _ _ hwrite _ hinsert =>
    -- Possessions are no matter of the users.
    obtain ⟨-, -, rfl⟩ := insertPossession_eq_ok.1 hinsert
    have hkept := keeps_user_of_writeUser hs (mem_of_user? huser) hwrite rfl hu
    exact hkept
  | buyAgain _ _ huser _ _ _ hwrite =>
    exact keeps_user_of_writeUser hs (mem_of_user? huser) hwrite rfl hu
  | throwAway _ _ huser _ _ hwrite =>
    have hkept := keeps_user_of_writeUser hs (mem_of_user? huser) hwrite rfl hu
    exact hkept
  | equip =>
    split
    · exact ⟨u, hu, rfl⟩
    · rw [Wardrobe.wear_eq]
      exact ⟨u, hu, rfl⟩
  | addStats _ _ _ _ _ _ _ _ _ _ _ hwrite =>
    obtain ⟨-, rfl⟩ := writeStats_eq_ok.1 hwrite
    exact hsame rfl
  | createNews _ _ _ _ _ hinsert =>
    obtain ⟨-, rfl⟩ := insertNews_eq_ok.1 hinsert
    exact hsame rfl
  | updateNews _ _ _ _ _ _ hwrite =>
    obtain ⟨-, rfl⟩ := writeNews_eq_ok.1 hwrite
    exact hsame rfl

end Deeds

/-! ### Runs -/

/-- **What holds of all newcomers holds of all users** after the events of a run from
empty tables, if it is about their identity. -/
theorem Chronicle.forall_identity {es : List Event} {s : Store} (past : Chronicle {} es s)
    {P : Identity → Prop}
    (hnew : ∀ {s s₁ : Store} {now : Instant} {id n e password : String},
      s.insertUser (Registry.newcomer now id n e password) = .ok s₁ →
        P (Registry.newcomer now id n e password).identity) :
    ∀ u ∈ s.users, P u.identity := by
  induction past with
  | start =>
    intro u hu
    cases hu
  | deed past hdeed ih =>
    intro u hu
    -- A user is there by an earlier event, or by a registration in this one.
    cases hdeed.descends (past.sound .empty) hu with
    | stays hv hidentity => exact hidentity ▸ ih _ hv
    | registers hinsert hidentity => exact hidentity ▸ hnew hinsert
  | stop _ ih => exact ih

end Guildhall
