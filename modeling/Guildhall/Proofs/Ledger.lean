/-
Guildhall/Proofs/Ledger.lean

The ledger of the guild.  A balance is what has come in by grants, less what
purchases took, plus what was paid back for items that were thrown away, all
of it since the user registered.  A purchase takes the price that counts at
that moment, and the base price at that moment is paid back.  Calls that
stop and all other calls move no money.

Main statement: `balance_eq_ledger`.
-/
import Mathlib.Algebra.Ring.Int.Defs
import Guildhall.Proofs.Arrival
import Guildhall.Proofs.Input
import Guildhall.Proofs.Integrity

namespace Guildhall

/-! ### Currencies -/

/-- The two currencies. -/
inductive Currency
  | coins
  | gems

/-- The part of a price in a currency. -/
def Price.amount (p : Price Int) : Currency → Int
  | .coins => p.coins
  | .gems => p.gems

/-- The balance of a user in a currency. -/
def User.balance (u : User) : Currency → Int
  | .coins => u.coins
  | .gems => u.gems

/-! ### What an event moves -/

namespace Event

/-- What an event gives to a user by a grant: the amounts, if the key means this
user. -/
def granted (e : Event) (id : String) (c : Currency) : Int :=
  match e.call, e.answer with
  | .grant key addCoins addGems, some _ =>
    match Input.identifier key "id", Input.amount addCoins "add_coins",
      Input.amount addGems "add_gems" with
    | .ok k, .ok coins, .ok gems =>
      if (e.before.userByKey? k).any (·.id == id) then Price.amount ⟨coins, gems⟩ c else 0
    | _, _, _ => 0
  | _, _ => 0

/-- What an event takes from a user for a purchase: the price that counts. -/
def spent (e : Event) (id : String) (c : Currency) : Int :=
  match e.call, e.answer with
  | .buy userId itemId, some _ =>
    match Input.identifier userId "user_id", Input.identifier itemId "item_id" with
    | .ok u, .ok i => if u = id then (e.before.item? i).elim 0 (·.price.amount c) else 0
    | _, _ => 0
  | _, _ => 0

/-- What an event pays back to a user for an item that is thrown away: the base
price. -/
def refunded (e : Event) (id : String) (c : Currency) : Int :=
  match e.call, e.answer with
  | .throwAway userId itemId, some _ =>
    match Input.identifier userId "user_id", Input.identifier itemId "item_id" with
    | .ok u, .ok i => if u = id then (e.before.item? i).elim 0 (·.base.amount c) else 0
    | _, _ => 0
  | _, _ => 0

/-- Whether an event is the registration of a user. -/
def registers (e : Event) (id : String) : Bool :=
  match e.call, e.answer with
  | .register .., some (.profile p) => p.id == id
  | _, _ => false

/-- Whether an event is the removal of a user. -/
def removes (e : Event) (id : String) : Bool :=
  match e.call, e.answer with
  | .deleteUser key, some _ => (Input.identifier key "id").toOption == some id
  | _, _ => false

/-- What an event moves into the balance of a user. -/
def net (e : Event) (id : String) (c : Currency) : Int :=
  e.granted id c - e.spent id c + e.refunded id c

end Event

/-! ### What a deed moves -/

section Deeds

open Store

variable {m : Moment} {call : Call} {answer : Answer} {s s' : Store} {u : User}

/-- How a user comes out of an event: as a newcomer with empty balances, or as a user
who has been there, with the balances moved. -/
def Event.Accounts (e : Event) (u : User) : Prop :=
  (e.registers u.id = true ∧ ∀ c, u.balance c = 0) ∨
    (e.registers u.id = false ∧ e.removes u.id = false ∧
      ∃ v ∈ e.before.users, v.id = u.id ∧ ∀ c, u.balance c = v.balance c + e.net u.id c)

/-- An event that moves nothing leaves a user as before. -/
theorem Event.Accounts.same {e : Event} (hu : u ∈ e.before.users)
    (hregisters : e.registers u.id = false) (hremoves : e.removes u.id = false)
    (hnet : ∀ c, e.net u.id c = 0) : e.Accounts u :=
  .inr ⟨hregisters, hremoves, u, hu, rfl, fun c => by rw [hnet c, Int.add_zero]⟩

/-- A user after one has been written is that one, or another one as before. -/
theorem Store.mem_writeUser {old new : User} (hs : s.Sound) (hold : old ∈ s.users)
    (h : s.writeUser m.now new = .ok s') (hid : new.id = old.id) (hu : u ∈ s'.users) :
    u.id = old.id ∧ (∀ c, u.balance c = new.balance c) ∨ u ∈ s.users ∧ u.id ≠ old.id := by
  obtain ⟨stamp, -, rfl⟩ := writeUser_eq_ok hs.userIds hold h hid
  rcases Rows.mem_put hu with rfl | ⟨hu, hne⟩
  · refine .inl ⟨hid, fun c => ?_⟩
    cases c <;> rfl
  · exact .inr ⟨hu, fun h => hne (h.trans hid.symm)⟩

section Net

variable {id : String} {c : Currency}

theorem Event.net_grant {key addCoins addGems : Value} {k : String} {coins gems : Int}
    (hkey : Input.identifier key "id" = .ok k)
    (hcoins : Input.amount addCoins "add_coins" = .ok coins)
    (hgems : Input.amount addGems "add_gems" = .ok gems) (huser : s.userByKey? k = some u) :
    Event.net ⟨m, .grant key addCoins addGems, s, some answer, s'⟩ id c =
      if u.id = id then Price.amount ⟨coins, gems⟩ c else 0 := by
  simp only [Event.net, Event.granted, Event.spent, Event.refunded, hkey, hcoins, hgems, huser,
    Option.any_some, beq_iff_eq, Int.sub_zero, Int.add_zero]

theorem Event.net_buy {userId itemId : Value} {k i : String} {item : Item}
    (huserId : Input.identifier userId "user_id" = .ok k)
    (hitemId : Input.identifier itemId "item_id" = .ok i) (hitem : s.item? i = some item) :
    Event.net ⟨m, .buy userId itemId, s, some answer, s'⟩ id c =
      if k = id then -item.price.amount c else 0 := by
  simp only [Event.net, Event.granted, Event.spent, Event.refunded, huserId, hitemId, hitem,
    Option.elim_some]
  split <;> simp

theorem Event.net_throwAway {userId itemId : Value} {k i : String} {item : Item}
    (huserId : Input.identifier userId "user_id" = .ok k)
    (hitemId : Input.identifier itemId "item_id" = .ok i) (hitem : s.item? i = some item) :
    Event.net ⟨m, .throwAway userId itemId, s, some answer, s'⟩ id c =
      if k = id then item.base.amount c else 0 := by
  simp only [Event.net, Event.granted, Event.spent, Event.refunded, huserId, hitemId, hitem,
    Option.elim_some]
  split <;> simp

end Net

/-- An event that writes one user with amounts moved into the balances. -/
theorem Event.Accounts.write {e : Event} {old new : User} {s₁ : Store} {moved : Currency → Int}
    (hs : e.before.Sound) (hold : old ∈ e.before.users)
    (h : e.before.writeUser e.moment.now new = .ok s₁) (hid : new.id = old.id)
    (hnew : ∀ c, new.balance c = old.balance c + moved c) (hu : u ∈ s₁.users)
    (hregisters : e.registers u.id = false) (hremoves : e.removes u.id = false)
    (hnet : ∀ c, e.net u.id c = if old.id = u.id then moved c else 0) : e.Accounts u := by
  rcases mem_writeUser hs hold h hid hu with ⟨hsame, hbalance⟩ | ⟨hu, hne⟩
  · refine .inr ⟨hregisters, hremoves, old, hold, hsame.symm, fun c => ?_⟩
    rw [hnet c, if_pos hsame.symm, hbalance c, hnew c]
  · exact .same hu hregisters hremoves fun c => (hnet c).trans (if_neg hne.symm)

/-- Only looking moves nothing. -/
theorem Event.Accounts.look (hlooks : call.looks = true) (hu : u ∈ s.users) :
    Event.Accounts ⟨m, call, s, some answer, s⟩ u := by
  cases call with
  | readUser | login | version | readItem | listItems | userItems | equippedItems | readStats
    | readNews | listNews => exact .same hu rfl rfl fun _ => rfl
  | _ => cases hlooks

/-- **What a deed does to the balance of every user who is there afterwards.** -/
theorem Deed.accounts (hdeed : Deed m s call answer s') (hs : s.Sound) (hu : u ∈ s'.users) :
    Event.Accounts ⟨m, call, s, some answer, s'⟩ u := by
  cases hdeed with
  | look hlooks => exact .look hlooks hu
  | register _ _ _ _ _ huser hstats =>
    obtain ⟨-, hunique, -, rfl⟩ := insertUser_eq_ok.1 huser
    obtain ⟨-, -, -, rfl⟩ := insertStats_eq_ok.1 hstats
    rcases List.mem_append.1 hu with hu | hu
    · -- The id of the newcomer is new, so nobody else is registered by this event.
      exact .same hu (beq_false_of_ne (hunique u hu).1.symm) rfl fun _ => rfl
    · -- The newcomer begins with nothing.
      obtain rfl := List.mem_singleton.1 hu
      refine .inl ⟨beq_self_eq_true _, fun c => ?_⟩
      cases c <;> rfl
  | deleteUser hid =>
    -- Whoever is still there is not the one who has been removed.
    obtain ⟨hu, hne⟩ := List.mem_filter.1 hu
    refine .same hu rfl ?_ fun _ => rfl
    simp only [Event.removes, hid, Except.toOption]
    exact beq_false_of_ne fun h => by simp [Option.some.inj h] at hne
  | grant hkey hcoins hgems huser hnewCoins hnewGems hwrite =>
    refine .write hs (mem_of_userByKey? huser) hwrite rfl (fun c => ?_) hu rfl rfl fun c =>
      Event.net_grant hkey hcoins hgems huser
    cases c with
    | coins => exact (Input.total_eq_ok.1 hnewCoins).2
    | gems => exact (Input.total_eq_ok.1 hnewGems).2
  | createItem _ _ _ _ _ _ _ _ _ _ hinsert =>
    obtain ⟨-, -, rfl⟩ := insertItem_eq_ok.1 hinsert
    exact .same hu rfl rfl fun _ => rfl
  | updateItem _ _ hitem _ hwrite =>
    obtain ⟨stamp, -, rfl⟩ := writeItem_eq_ok hs.itemIds (mem_of_item? hitem) hwrite rfl
    exact .same hu rfl rfl fun _ => rfl
  | deleteItem => exact .same hu rfl rfl fun _ => rfl
  | buy huserId hitemId huser hitem _ _ hwrite _ hinsert =>
    -- The money goes with the user who is written; the new possession moves none.
    obtain ⟨-, -, rfl⟩ := insertPossession_eq_ok.1 hinsert
    obtain ⟨hmem, rfl⟩ := (user?_eq_some_iff hs.userIds).1 huser
    refine .write hs hmem hwrite rfl (fun c => ?_) hu rfl rfl fun c =>
      Event.net_buy huserId hitemId hitem
    cases c <;> exact Int.sub_eq_add_neg
  | buyAgain huserId hitemId huser hitem _ _ hwrite =>
    obtain ⟨hmem, rfl⟩ := (user?_eq_some_iff hs.userIds).1 huser
    refine .write hs hmem hwrite rfl (fun c => ?_) hu rfl rfl fun c =>
      Event.net_buy huserId hitemId hitem
    cases c <;> exact Int.sub_eq_add_neg
  | throwAway huserId hitemId huser hitem _ hwrite =>
    obtain ⟨hmem, rfl⟩ := (user?_eq_some_iff hs.userIds).1 huser
    refine .write hs hmem hwrite rfl (fun c => ?_) hu rfl rfl fun c =>
      Event.net_throwAway huserId hitemId hitem
    cases c <;> rfl
  | equip _ _ _ _ =>
    split at hu
    · exact .same hu rfl rfl fun _ => rfl
    · rw [Wardrobe.wear_eq] at hu
      exact .same hu rfl rfl fun _ => rfl
  | addStats _ _ _ _ _ _ _ _ _ _ _ hwrite =>
    obtain ⟨-, rfl⟩ := writeStats_eq_ok.1 hwrite
    exact .same hu rfl rfl fun _ => rfl
  | createNews _ _ _ _ _ hinsert =>
    obtain ⟨-, rfl⟩ := insertNews_eq_ok.1 hinsert
    exact .same hu rfl rfl fun _ => rfl
  | updateNews _ _ _ _ _ _ hwrite =>
    obtain ⟨-, rfl⟩ := writeNews_eq_ok.1 hwrite
    exact .same hu rfl rfl fun _ => rfl

/-- A call that stops moves nothing. -/
theorem Event.Accounts.stop (hu : u ∈ s.users) : Event.Accounts ⟨m, call, s, none, s⟩ u := by
  refine .same hu ?_ ?_ fun c => ?_ <;> cases call <;> rfl

end Deeds

/-! ### Runs -/

/-- The account of a user over some events: a registration, after which the user has
been neither registered nor removed, and a balance that adds up since. -/
def Account (es : List Event) (u : User) : Prop :=
  ∃ past birth later, es = past ++ birth :: later ∧ birth.registers u.id = true ∧
    (∀ e ∈ later, e.registers u.id = false ∧ e.removes u.id = false) ∧
    ∀ c, u.balance c =
      (later.map (·.granted u.id c)).sum - (later.map (·.spent u.id c)).sum +
        (later.map (·.refunded u.id c)).sum

/-- One more event keeps the accounts. -/
theorem Account.append {es : List Event} {e : Event} {u : User}
    (hes : ∀ v ∈ e.before.users, Account es v) (he : e.Accounts u) : Account (es ++ [e]) u := by
  -- A registration opens an account, and any other event goes to the account of the
  -- user as the event found them.
  rcases he with ⟨hregisters, hzero⟩ | ⟨hregisters, hremoves, v, hv, hid, hbalance⟩
  · refine ⟨es, e, [], rfl, hregisters, fun _ => nofun, fun c => ?_⟩
    rw [hzero c]
    rfl
  · obtain ⟨past, birth, later, rfl, hbirth, hlater, hsum⟩ := hes v hv
    rw [hid] at hbirth hlater hsum
    refine ⟨past, birth, later ++ [e], ?_, hbirth, ?_, fun c => ?_⟩
    · rw [List.append_assoc, List.cons_append]
    · intro e' he'
      rcases List.mem_append.1 he' with he' | he'
      · exact hlater e' he'
      · rw [List.mem_singleton.1 he']
        exact ⟨hregisters, hremoves⟩
    · rw [hbalance c, hsum c, Event.net]
      simp only [List.map_append, List.map_singleton, List.sum_append, List.sum_singleton]
      omega

/-- Every user who is there after the events of a run from empty tables has an
account. -/
theorem Chronicle.account {es : List Event} {s : Store} (past : Chronicle {} es s) :
    ∀ u ∈ s.users, Account es u := by
  induction past with
  | start =>
    intro u hu
    cases hu
  | deed past hdeed ih =>
    intro u hu
    exact .append ih (hdeed.accounts (past.sound .empty) hu)
  | stop _ ih =>
    intro u hu
    exact .append ih (.stop hu)

/-- **The ledger.**  The balances of every user who is there at the end of a run from
empty tables are what grants gave since the user registered, less what purchases
took, plus what was paid back for items that were thrown away. -/
theorem balance_eq_ledger (service : Service) (d : Desk) (steps : List Step) :
    ∀ u ∈ (service.run { d with store := {} } steps).store.users,
      Account (service.history { d with store := {} } steps) u :=
  (service.chronicle { d with store := {} } steps).account

namespace Savings

/-- A service without a signing key. -/
def service : Service := ⟨⟨"HS256", .error .keyRejected, 1000000, "", "", {}⟩, ""⟩

/-- Ids to come. -/
def desk : Desk := { supply := { prepared := ["ada", "stats", "hat"] } }

/-- The moment of every call. -/
def noon : Moment := ⟨⟨0⟩, none⟩

/-- A user is given 20 coins, buys a hat for 3 instead of 5, cannot pay for it in
gems once it costs some, and throws it away. -/
def steps : List Step :=
  [⟨noon, .register (.text "ada") (.text "a@b.c") (.text "pw")⟩,
    ⟨noon, .createItem { name := .text "hat", slot := .int 1, imageId := .text "p", coins := .int 5,
                         onSale := .bool true, saleCoins := .int 3 }⟩,
    ⟨noon, .grant (.text "a@b.c") (.int 20) (.int 0)⟩,
    ⟨noon, .buy (.text "ada") (.text "hat")⟩,
    ⟨noon, .updateItem (.text "hat") { saleGems := .int 1 }⟩,
    ⟨noon, .buy (.text "ada") (.text "hat")⟩,
    ⟨noon, .throwAway (.text "ada") (.text "hat")⟩]

/-- The user in the end. -/
def ada : User :=
  { id := "ada", name := "ada", email := "a@b.c",
    password := "30c952fab122c3f9759f02a6d95c3758b246b4fee239957b2d4fee46e26170c4", coins := 22,
    createdAt := ⟨0⟩, updatedAt := ⟨0⟩ }

/-- The item before it costs gems. -/
def hat : Item :=
  { id := "hat", name := "hat", slot := 1, imageId := "p", base := ⟨5, 0⟩, onSale := true,
    sale := ⟨3, 0⟩, createdAt := ⟨0⟩, updatedAt := ⟨0⟩ }

/-- The users in the end. -/
theorem users_run : (service.run { desk with store := {} } steps).store.users = [ada] :=
  congrArg (·.store.users) (service.run_ada noon.now "ada" "stats" ["hat"] _)

end Savings

open Savings in
/-- The account of a user with 22 coins: a grant of 20, a purchase for 3 and 5 paid
back. -/
theorem balance_eq_ledger_savings :
    ada ∈ (service.run { desk with store := {} } steps).store.users ∧
      Account (service.history { desk with store := {} } steps) ada := by
  have hada : ada ∈ [ada] := List.mem_singleton_self ada
  rw [users_run]
  refine ⟨hada, balance_eq_ledger service desk steps ada ?_⟩
  rwa [users_run]

end Guildhall
