/-
Guildhall/Proofs/Arguments.lean

The arguments of a call and their checks.  Before a call turns to the storage, it checks
its arguments one after the other; `Call.check` is those checks by themselves.  A call
whose arguments are refused stops as the check does, at every desk and before anything
else happens, and then with a complaint about a field, unless an argument is infinite or
has too many digits.

Main statements: `Call.only_check`, `Call.complains_check` and `Service.begins_perform`.
-/
import Guildhall.Proofs.Statement
import Guildhall.Proofs.Stopping
import Guildhall.Service

namespace Guildhall

namespace Call

/-- The arguments of a call, as they were handed in. -/
def arguments : Call → List Value
  | .register name email password => [name, email, password]
  | .readUser v | .deleteUser v | .readItem v | .deleteItem v | .userItems v | .equippedItems v
  | .readStats v | .readNews v => [v]
  | .login key password => [key, password]
  | .grant key coins gems => [key, coins, gems]
  | .createItem draft =>
    [draft.name, draft.slot, draft.imageId, draft.description, draft.coins, draft.gems,
      draft.onSale, draft.saleCoins, draft.saleGems]
  | .updateItem id change =>
    [id, change.name, change.slot, change.imageId, change.description, change.coins,
      change.gems, change.saleCoins, change.saleGems]
  | .buy userId itemId | .throwAway userId itemId | .equip userId itemId => [userId, itemId]
  | .addStats username deltas => [username, deltas.kills, deltas.games, deltas.top5, deltas.wins]
  | .createNews title description imageLink => [title, description, imageLink]
  | .updateNews id title description imageLink => [id, title, description, imageLink]
  | .updateUser | .listUsers | .version | .listItems | .listNews => []

/-- A call in whose texts there are no halves of surrogate pairs. -/
def Whole (call : Call) : Prop := ∀ v ∈ call.arguments, ∀ raw, v ≠ .torn raw

theorem Whole.checkBytes {call : Call} (h : call.Whole) (v : Value) (hv : v ∈ call.arguments) :
    Guildhall.checkBytes v = .ok () := checkBytes_eq_ok.2 (h v hv)

/-- The checks of the arguments of a call, in their order.  A login checks nothing before
it turns to the storage. -/
def check : Call → Except Stop Unit
  | .register name email password => do
    let _ ← Input.text name "name" (some Input.nameLimit)
    let _ ← Input.email email "email"
    let _ ← Input.text password "password" none
    return ()
  | .readUser id | .deleteUser id | .readItem id | .deleteItem id | .readNews id => do
    let _ ← Input.identifier id "id"
    return ()
  | .grant key coins gems => do
    let _ ← Input.identifier key "id"
    let _ ← Input.amount coins "add_coins"
    let _ ← Input.amount gems "add_gems"
    return ()
  | .createItem draft => do
    let _ ← Input.text draft.name "name" (some Catalogue.nameLimit)
    let _ ← Input.integer draft.slot "type" (some 0) none
    let _ ← Input.text draft.imageId "image_id" (some Catalogue.imageLimit)
    let _ ← Input.optionalText draft.description "description" none
    let _ ← Input.amount draft.coins "coins_price"
    let _ ← Input.amount draft.gems "gems_price"
    let _ ← Input.amount draft.saleCoins "sale_coins_price"
    let _ ← Input.amount draft.saleGems "sale_gems_price"
    return ()
  | .updateItem id change => do
    let _ ← Input.identifier id "id"
    let _ ← change.check
    return ()
  | .userItems userId | .equippedItems userId => do
    let _ ← Input.identifier userId "user_id"
    return ()
  | .buy userId itemId | .throwAway userId itemId | .equip userId itemId => do
    let _ ← Input.identifier userId "user_id"
    let _ ← Input.identifier itemId "item_id"
    return ()
  | .readStats username => do
    let _ ← Scoreboard.readName username
    return ()
  | .addStats username deltas => do
    let _ ← Scoreboard.readName username
    let _ ← Input.amount deltas.kills "add_kills"
    let _ ← Input.amount deltas.games "add_games"
    let _ ← Input.amount deltas.top5 "add_top5"
    let _ ← Input.amount deltas.wins "add_wins"
    return ()
  | .createNews title description imageLink => do
    let _ ← Input.text title "title" (some Input.titleLimit)
    let _ ← Input.optionalText description "description" none
    let _ ← Input.optionalText imageLink "image_link" (some Bulletin.linkLimit)
    return ()
  | .updateNews id title description imageLink => do
    let _ ← Input.identifier id "id"
    let _ ← Input.optionalText title "title" (some Input.titleLimit)
    let _ ← Input.optionalText description "description" none
    let _ ← Input.optionalText imageLink "image_link" (some Bulletin.linkLimit)
    return ()
  | .login .. | .updateUser | .listUsers | .version | .listItems | .listNews => return ()

end Call

/-! ### How a check ends -/

/-- A number that may be left out is checked as one that is not. -/
theorem Catalogue.only_optionalNumber {P : Stop → Prop} {v : Value}
    {check : Value → Except Stop Int} (h : Except.Only P (check v)) :
    Except.Only P (optionalNumber v check) := by
  unfold optionalNumber
  split
  · exact .ok
  · exact h

/-- **The check of a call stops as those of its arguments do**: of numbers that are not
negative, and bounded or not, of texts and of addresses. -/
theorem Call.only_check {P : Stop → Prop} (call : Call)
    (hnumber : ∀ v ∈ call.arguments, ∀ field, ∀ most ∈ [none, some Input.greatestAmount],
      Except.Only P (Input.integer v field (some 0) most))
    (htext : ∀ v ∈ call.arguments, ∀ field most, Except.Only P (Input.text v field most))
    (hemail : ∀ v ∈ call.arguments, ∀ field, Except.Only P (Input.email v field)) :
    Except.Only P call.check := by
  have hamount : ∀ v ∈ call.arguments, ∀ field, Except.Only P (Input.amount v field) :=
    fun v hv field => hnumber v hv field _ (.tail _ (.head _))
  have hopen : ∀ v ∈ call.arguments, ∀ field most,
      Except.Only P (Input.optionalText v field most) :=
    fun v hv field _ => Input.only_optionalText fun most => htext v hv field most
  have hpass : Except.Only P (pure () : Except Stop Unit) := .ok
  cases call with
  | register name email password =>
    refine (htext name (by simp [arguments]) _ _).bind fun _ _ => ?_
    refine (hemail email (by simp [arguments]) _).bind fun _ _ => ?_
    exact (htext password (by simp [arguments]) _ _).bind fun _ _ => hpass
  | readUser v | deleteUser v | readItem v | deleteItem v | readNews v | userItems v
  | equippedItems v | readStats v =>
    exact (htext v (.head _) _ _).bind fun _ _ => hpass
  | buy userId itemId | throwAway userId itemId | equip userId itemId =>
    refine (htext userId (by simp [arguments]) _ _).bind fun _ _ => ?_
    exact (htext itemId (by simp [arguments]) _ _).bind fun _ _ => hpass
  | grant key coins gems =>
    refine (htext key (by simp [arguments]) _ _).bind fun _ _ => ?_
    refine (hamount coins (by simp [arguments]) _).bind fun _ _ => ?_
    exact (hamount gems (by simp [arguments]) _).bind fun _ _ => hpass
  | createItem draft =>
    refine (htext draft.name (by simp [arguments]) _ _).bind fun _ _ => ?_
    refine (hnumber draft.slot (by simp [arguments]) _ _ (.head _)).bind fun _ _ => ?_
    refine (htext draft.imageId (by simp [arguments]) _ _).bind fun _ _ => ?_
    refine (hopen draft.description (by simp [arguments]) _ _).bind fun _ _ => ?_
    refine (hamount draft.coins (by simp [arguments]) _).bind fun _ _ => ?_
    refine (hamount draft.gems (by simp [arguments]) _).bind fun _ _ => ?_
    refine (hamount draft.saleCoins (by simp [arguments]) _).bind fun _ _ => ?_
    exact (hamount draft.saleGems (by simp [arguments]) _).bind fun _ _ => hpass
  | updateItem id change =>
    have hslot : Except.Only P
        (Catalogue.optionalNumber change.slot fun v => Input.integer v "type" (some 0) none) :=
      Catalogue.only_optionalNumber (hnumber change.slot (by simp [arguments]) _ _ (.head _))
    have hprice : ∀ v ∈ (Call.updateItem id change).arguments, ∀ field,
        Except.Only P (Catalogue.optionalNumber v fun v => Input.amount v field) :=
      fun v hv field => Catalogue.only_optionalNumber (hamount v hv field)
    refine (htext id (by simp [arguments]) _ _).bind fun _ _ => ?_
    refine Except.Only.bind ?_ fun _ _ => hpass
    refine (hopen change.name (by simp [arguments]) _ _).bind fun _ _ => ?_
    refine (hopen change.imageId (by simp [arguments]) _ _).bind fun _ _ => ?_
    refine (hopen change.description (by simp [arguments]) _ _).bind fun _ _ => ?_
    refine hslot.bind fun _ _ => ?_
    refine (hprice change.coins (by simp [arguments]) _).bind fun _ _ => ?_
    refine (hprice change.gems (by simp [arguments]) _).bind fun _ _ => ?_
    refine (hprice change.saleCoins (by simp [arguments]) _).bind fun _ _ => ?_
    exact (hprice change.saleGems (by simp [arguments]) _).bind fun _ _ => .ok
  | addStats username deltas =>
    refine (htext username (by simp [arguments]) _ _).bind fun _ _ => ?_
    refine (hamount deltas.kills (by simp [arguments]) _).bind fun _ _ => ?_
    refine (hamount deltas.games (by simp [arguments]) _).bind fun _ _ => ?_
    refine (hamount deltas.top5 (by simp [arguments]) _).bind fun _ _ => ?_
    exact (hamount deltas.wins (by simp [arguments]) _).bind fun _ _ => hpass
  | createNews title description imageLink =>
    refine (htext title (by simp [arguments]) _ _).bind fun _ _ => ?_
    refine (hopen description (by simp [arguments]) _ _).bind fun _ _ => ?_
    exact (hopen imageLink (by simp [arguments]) _ _).bind fun _ _ => hpass
  | updateNews id title description imageLink =>
    refine (htext id (by simp [arguments]) _ _).bind fun _ _ => ?_
    refine (hopen title (by simp [arguments]) _ _).bind fun _ _ => ?_
    refine (hopen description (by simp [arguments]) _ _).bind fun _ _ => ?_
    exact (hopen imageLink (by simp [arguments]) _ _).bind fun _ _ => hpass
  | login | updateUser | listUsers | version | listItems | listNews => exact hpass

open Input in
/-- **Arguments are refused with a complaint about a field**, or because one of them is
infinite or has too many digits. -/
theorem Call.complains_check (call : Call) : Complains call.arguments call.check :=
  call.only_check (fun _ hv _ _ _ => complains_integer hv) (fun _ _ _ _ => complains_text)
    fun _ _ _ => complains_email

/-! ### Checks come first -/

namespace Session

variable {α β : Type} {check : Except Stop Unit}

/-- Work that begins with a check: where the check stops, so does the work. -/
def Begins (check : Except Stop Unit) (x : Session α) : Prop :=
  ∀ d stop, check = .error stop → x d = .error stop d

theorem begins_pass (x : Session α) : Begins (pure ()) x := nofun

theorem begins_after {x : Except Stop α} {rest : α → Except Stop Unit} {f : α → Session β}
    (hf : ∀ a, Begins (rest a) (f a)) : Begins (x >>= rest) ((liftM x : Session α) >>= f) := by
  intro d stop h
  cases x with
  | error e =>
    cases h
    rfl
  | ok a => exact hf a d stop h

theorem Begins.answer {x : Session α} (hx : Begins check x) (f : α → β) :
    Begins check (x >>= fun a => pure (f a)) := by
  intro d stop h
  show EStateM.bind x _ d = _
  unfold EStateM.bind
  rw [hx d stop h]

end Session

open Session in
/-- **A call begins with the checks of its arguments.** -/
theorem Service.begins_perform (service : Service) (m : Moment) (call : Call) :
    Begins call.check (service.perform m call) := by
  cases call with
  | readUser | deleteUser | readItem | deleteItem | readNews | userItems | equippedItems
  | readStats => exact (begins_after fun _ => begins_pass _).answer _
  | buy | throwAway | equip | updateItem =>
    exact (begins_after fun _ => begins_after fun _ => begins_pass _).answer _
  | register | grant | createNews =>
    exact (begins_after fun _ => begins_after fun _ => begins_after fun _ => begins_pass _).answer _
  | updateNews =>
    exact (begins_after fun _ => begins_after fun _ => begins_after fun _ => begins_after fun _ =>
      begins_pass _).answer _
  | addStats =>
    exact (begins_after fun _ => begins_after fun _ => begins_after fun _ => begins_after fun _ =>
      begins_after fun _ => begins_pass _).answer _
  | createItem =>
    exact (begins_after fun _ => begins_after fun _ => begins_after fun _ => begins_after fun _ =>
      begins_after fun _ => begins_after fun _ => begins_after fun _ => begins_after fun _ =>
      begins_pass _).answer _
  | login | updateUser | listUsers | version | listItems | listNews => exact begins_pass _

end Guildhall
