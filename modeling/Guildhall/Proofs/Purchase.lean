/-
Guildhall/Proofs/Purchase.lean

What comes of a purchase, in full.  A purchase looks for the user, then for the item,
then at the gems and then at the coins; the first look that fails decides, and nothing has
been written by then.  If none fails, it succeeds:

    buy m userId itemId d = .ok () { d with store := d.store.sold m.now user item }

A store that a run reaches is sound, so that an id means one row, and has its columns in
their domains, so that the price is not negative and what is left of a balance fits.

Main statement: `purchase_complete`.
-/
import Guildhall.Proofs.Domain
import Guildhall.Proofs.Ledger
import Guildhall.Proofs.Ready

namespace Guildhall

open Session

variable {m : Moment} {d : Desk} {s : Store} {now : Instant}

/-! ### The store after a purchase -/

/-- A user with other balances.  The time of the last change moves on only if one of them
changes. -/
def User.withBalances (now : Instant) (u : User) (coins gems : Int) : User :=
  { u with
    coins, gems
    updatedAt := if coins = u.coins ∧ gems = u.gems then u.updatedAt else now }

/-- The time of the last change is the old one or that of the moment. -/
theorem User.withBalances_updatedAt (now : Instant) (u : User) (coins gems : Int) :
    (u.withBalances now coins gems).updatedAt = u.updatedAt ∨
      (u.withBalances now coins gems).updatedAt = now := by
  unfold withBalances
  dsimp only
  split
  · exact .inl rfl
  · exact .inr rfl

/-- A user after paying a price. -/
def User.paid (now : Instant) (u : User) (price : Price Int) : User :=
  u.withBalances now (u.coins - price.coins) (u.gems - price.gems)

namespace Store

/-- A store in which a user has the item: it is added, unless the user has it already. -/
def handedOver (s : Store) (userId itemId : String) : Store :=
  { s with
    possessions :=
      if (s.possession? userId itemId).isNone then s.possessions ++ [{ userId, itemId }]
      else s.possessions }

/-- A store after a user has bought an item. -/
def sold (now : Instant) (s : Store) (user : User) (item : Item) : Store :=
  handedOver { s with users := Rows.put (·.id) (user.paid now item.price) s.users } user.id item.id

/-- A user whose balances change to counts is written. -/
theorem writeUser_withBalances (now : Instant) {user : User} {coins gems : Int} (hs : s.Sound)
    (huser : user ∈ s.users) (hcoins : IsCount coins) (hgems : IsCount gems) :
    s.writeUser now { user with coins, gems } =
      .ok { s with users := Rows.put (·.id) (user.withBalances now coins gems) s.users } := by
  have hsame : { user with coins := coins, gems := gems, updatedAt := user.updatedAt } = user ↔
      coins = user.coins ∧ gems = user.gems := by
    constructor
    · intro h
      exact ⟨congrArg User.coins h, congrArg User.gems h⟩
    · rintro ⟨rfl, rfl⟩
      rfl
  unfold writeUser User.withBalances
  rw [(user?_eq_some_iff hs.userIds).2 ⟨huser, rfl⟩]
  dsimp only
  by_cases h : coins = user.coins ∧ gems = user.gems
  · -- The row is the old one, which stands there already.
    rw [if_pos (hsame.2 h), if_pos h, hsame.2 h, Rows.put_of_mem hs.userIds huser]
  · rw [if_neg (hsame.not.2 h), if_neg h]
    refine replaceUser_eq_ok.2 ⟨?_, ?_, ⟨hcoins.1, hgems.1⟩, rfl⟩
    · simp only [List.forall_mem_cons]
      exact ⟨⟨Int.le_trans (by decide) hcoins.1, hcoins.2⟩,
        ⟨Int.le_trans (by decide) hgems.1, hgems.2⟩, List.forall_mem_nil _⟩
    · -- No other user has the name or the address, which are the old ones.
      intro v hv hne
      refine ⟨fun hname => hne ?_, fun hemail => hne ?_⟩
      · exact (Rows.eq_of_key hs.userNames hv huser hname : v = user) ▸ rfl
      · exact (Rows.eq_of_key hs.userEmails hv huser hemail : v = user) ▸ rfl

end Store

/-! ### Purchases that succeed -/

/-- What is left of a balance that covers a price is a count. -/
theorem IsCount.minus {balance price : Int} (hbalance : IsCount balance) (hprice : IsPrice price)
    (h : price ≤ balance) : IsCount (balance - price) :=
  ⟨Int.sub_nonneg_of_le h, Int.le_trans (Int.sub_le_self _ hprice.1) hbalance.2⟩

namespace Market

variable {userId itemId : Value} {user : User} {item : Item}

/-- Handing an item over, after the payment. -/
theorem handOver_ready {u i : String} (hd : d.Ready) (hm : m.fault = none)
    (huser : ∃ user ∈ d.store.users, user.id = u) (hitem : ∃ item ∈ d.store.items, item.id = i) :
    (do flush m .users
        if ((← store).possession? u i).isNone then
          run (·.insertPossession { userId := u, itemId := i })
          flush m .possessions : Session Unit) d =
      .ok () { d with store := d.store.handedOver u i } := by
  rw [bind_ready (flush_ready hd hm), bind_ready (store_ready hd)]
  unfold Store.handedOver
  by_cases hnew : (d.store.possession? u i).isNone = true
  · have hinsert : d.store.insertPossession { userId := u, itemId := i } =
        .ok { d.store with possessions := d.store.possessions ++ [{ userId := u, itemId := i }] } :=
      Store.insertPossession_eq_ok.2
        ⟨Store.possession?_eq_none_iff.1 (Option.isNone_iff_eq_none.1 hnew), ⟨huser, hitem⟩, rfl⟩
    rw [if_pos hnew, if_pos hnew, bind_ready (run_ready hd hinsert)]
    exact flush_ready (hd.holding _ _) hm
  · rw [if_neg hnew, if_neg hnew]
    rfl

/-- **Buying an item that the user can pay for.** -/
theorem buy_ready (hd : d.Ready) (hm : m.fault = none) (hs : d.store.Sound)
    (hdomain : d.store.InDomain) (huserId : Input.Names userId "user_id" user.id)
    (hitemId : Input.Names itemId "item_id" item.id) (huser : user ∈ d.store.users)
    (hitem : item ∈ d.store.items) (hgems : item.price.gems ≤ user.gems)
    (hcoins : item.price.coins ≤ user.coins) :
    buy m userId itemId d = .ok () { d with store := d.store.sold m.now user item } := by
  have hpair : findPair userId itemId user.id item.id d = .ok (user, item) d :=
    findPair_ready hd huserId.bytes hitemId.bytes
      ((Store.user?_eq_some_iff hs.userIds).2 ⟨huser, rfl⟩)
      ((Store.item?_eq_some_iff hs.itemIds).2 ⟨hitem, rfl⟩)
  have hbefore := hdomain.users user huser
  obtain ⟨hpriceCoins, hpriceGems⟩ := (hdomain.items item hitem).price
  have hwrite := Store.writeUser_withBalances m.now hs huser
    (hbefore.coins.minus hpriceCoins hcoins) (hbefore.gems.minus hpriceGems hgems)
  -- The user is there still when the item is handed over.
  have hstill : ∃ v ∈ Rows.put (·.id) (user.paid m.now item.price) d.store.users,
      v.id = user.id :=
    ⟨user.paid m.now item.price, Rows.mem_put_of_mem huser rfl, rfl⟩
  unfold buy
  rw [huserId.check, hitemId.check]
  refine reporting_ready (transaction_ready hd ?_ (hd.holding _ _))
  rw [bind_ready hpair]
  dsimp only
  rw [if_neg (Int.not_lt.2 hgems), if_neg (Int.not_lt.2 hcoins),
    bind_ready (run_ready hd hwrite)]
  exact handOver_ready (hd.holding _ _) hm hstill ⟨item, hitem, rfl⟩

/-! ### Purchases that fail -/

variable {u i : String}

theorem findPair_noUser (hd : d.Ready) (huserBytes : checkBytes userId = .ok ())
    (hnone : ∀ user ∈ d.store.users, user.id ≠ u) :
    findPair userId itemId u i d = .error (.failure (.notFound "User" (.text u))) d := by
  unfold findPair
  rw [bind_ready (storeFor_ready hd huserBytes), Store.user?_eq_none_iff.2 hnone]
  rfl

theorem findPair_noItem (hd : d.Ready) (huserBytes : checkBytes userId = .ok ())
    (hitemBytes : checkBytes itemId = .ok ()) (huser : d.store.user? u = some user)
    (hnone : ∀ item ∈ d.store.items, item.id ≠ i) :
    findPair userId itemId u i d = .error (.failure (.notFound "Item" (.text i))) d := by
  unfold findPair
  rw [bind_ready (storeFor_ready hd huserBytes), huser]
  dsimp only
  rw [bind_ready (storeFor_ready hd hitemBytes), Store.item?_eq_none_iff.2 hnone]
  rfl

/-- A purchase fails where the pair is not found. -/
theorem buy_notFound {f : Failure} (hd : d.Ready)
    (huserId : Input.Names userId "user_id" u) (hitemId : Input.Names itemId "item_id" i)
    (hpair : findPair userId itemId u i d = .error (.failure f) d) :
    buy m userId itemId d = .error (.failure f) d := by
  unfold buy
  rw [huserId.check, hitemId.check]
  exact refused_ready hd (bind_stopped hpair)

/-- A purchase fails where a balance does not cover the price; the gems come first. -/
theorem buy_insufficient {f : Failure} (hd : d.Ready)
    (huserId : Input.Names userId "user_id" u) (hitemId : Input.Names itemId "item_id" i)
    (hpair : findPair userId itemId u i d = .ok (user, item) d)
    (hshort : user.gems < item.price.gems ∧ f = .insufficient "gems" item.price.gems user.gems ∨
      ¬user.gems < item.price.gems ∧ user.coins < item.price.coins ∧
        f = .insufficient "coins" item.price.coins user.coins) :
    buy m userId itemId d = .error (.failure f) d := by
  unfold buy
  rw [huserId.check, hitemId.check]
  refine refused_ready hd ?_
  rw [bind_ready hpair]
  dsimp only
  rcases hshort with ⟨hgems, rfl⟩ | ⟨hgems, hcoins, rfl⟩
  · rw [if_pos hgems]
    rfl
  · rw [if_neg hgems, if_pos hcoins]
    rfl

end Market

/-! ### What can come of a purchase -/

/-- A failure that says that a balance does not cover a price, and how much is missing. -/
structure Short (resource : String) (required current : Int) (f : Failure) : Prop where
  kind : f = .insufficient resource required current
  message : f.message = "Not enough " ++ resource
  details : f.details =
    [("required", .int required), ("current", .int current), ("deficit", .int (required - current))]
  deficit : 0 < required - current

theorem short_insufficient {resource : String} {required current : Int}
    (h : current < required) : Short resource required current
      (.insufficient resource required current) :=
  ⟨rfl, rfl, rfl, Int.sub_pos_of_lt h⟩

/-- What a purchase makes of a store: the user has paid the active price and has the item,
and nothing else is different. -/
structure Bought (now : Instant) (s : Store) (user : User) (item : Item) (s' : Store) : Prop where
  /-- The balances are lower by the price, and of the other columns of this user at most
  the time of the last change is different; the other users are the same. -/
  users : ∃ stamp, (stamp = user.updatedAt ∨ stamp = now) ∧
    s'.users = Rows.put (·.id)
      { user with
        coins := user.coins - item.price.coins
        gems := user.gems - item.price.gems
        updatedAt := stamp } s.users
  coins : 0 ≤ user.coins - item.price.coins
  gems : 0 ≤ user.gems - item.price.gems
  /-- The user has the item once, and wears it only if it was worn before. -/
  possession : s'.possessions.filter (·.key = (user.id, item.id)) =
    [⟨user.id, item.id, (s.possession? user.id item.id).any (·.equipped)⟩]
  others : s'.possessions.filter (·.key ≠ (user.id, item.id)) =
    s.possessions.filter (·.key ≠ (user.id, item.id))
  items : s'.items = s.items
  stats : s'.stats = s.stats
  news : s'.news = s.news

/-- The possessions under a key after the item has been handed over: one, worn only if it
was worn before. -/
theorem Store.handedOver_key {u i : String} (hkeys : (s.possessions.map Possession.key).Nodup) :
    (s.handedOver u i).possessions.filter (·.key = (u, i)) =
      [⟨u, i, (s.possession? u i).any (·.equipped)⟩] := by
  unfold handedOver
  cases hheld : s.possession? u i with
  | none =>
    have hnone : s.possessions.filter (·.key = (u, i)) = [] :=
      List.filter_eq_nil_iff.2 fun p hp => by
        simpa using possession?_eq_none_iff.1 hheld p hp
    show (s.possessions ++ [_]).filter _ = _
    rw [List.filter_append, hnone, List.nil_append]
    simp [Possession.key]
  | some p =>
    have hkey : p.key = (u, i) := isKey_iff.1 (List.find?_some
      (p := fun q : Possession => q.userId == u && q.itemId == i) hheld)
    obtain ⟨rfl, rfl⟩ := Prod.mk.inj hkey
    exact Rows.filter_key hkeys (List.mem_of_find?_eq_some hheld)

theorem Store.handedOver_others {u i : String} :
    (s.handedOver u i).possessions.filter (·.key ≠ (u, i)) =
      s.possessions.filter (·.key ≠ (u, i)) := by
  unfold handedOver
  dsimp only
  split
  · rw [List.filter_append, List.filter_cons_of_neg (by simp [Possession.key]), List.filter_nil,
      List.append_nil]
  · rfl

theorem Store.bought_sold {user : User} {item : Item} (hs : s.Sound)
    (hgems : item.price.gems ≤ user.gems) (hcoins : item.price.coins ≤ user.coins) :
    Bought now s user item (s.sold now user item) := by
  exact
    { users := ⟨_, user.withBalances_updatedAt now _ _, rfl⟩
      coins := Int.sub_nonneg_of_le hcoins
      gems := Int.sub_nonneg_of_le hgems
      possession := handedOver_key hs.possessionKeys
      others := handedOver_others
      items := rfl
      stats := rfl
      news := rfl }

/-- **What comes of a purchase**, at every store that a run from empty tables reaches and
for all ids that name keys.  The four ways to fail come in this order, and each of
them leaves the desk as it was. -/
theorem purchase_complete {service : Service} {desk : Desk} {steps : List Step}
    (hstore : d.store = (service.run { desk with store := {} } steps).store) (hd : d.Ready)
    (hm : m.fault = none) {userId itemId : Value} {u i : String}
    (huserId : Input.Names userId "user_id" u) (hitemId : Input.Names itemId "item_id" i) :
    ((∀ user ∈ d.store.users, user.id ≠ u) →
      service.perform m (.buy userId itemId) d =
        .error (.failure (.notFound "User" (.text u))) d) ∧
    ∀ user ∈ d.store.users, user.id = u →
      ((∀ item ∈ d.store.items, item.id ≠ i) →
        service.perform m (.buy userId itemId) d =
          .error (.failure (.notFound "Item" (.text i))) d) ∧
      ∀ item ∈ d.store.items, item.id = i →
        (user.gems < item.price.gems →
          ∃ f, Short "gems" item.price.gems user.gems f ∧
            service.perform m (.buy userId itemId) d = .error (.failure f) d) ∧
        (item.price.gems ≤ user.gems → user.coins < item.price.coins →
          ∃ f, Short "coins" item.price.coins user.coins f ∧
            service.perform m (.buy userId itemId) d = .error (.failure f) d) ∧
        (item.price.gems ≤ user.gems → item.price.coins ≤ user.coins →
          ∃ s, Bought m.now d.store user item s ∧
            service.perform m (.buy userId itemId) d = .ok .done { d with store := s }) := by
  have hs : d.store.Sound := hstore ▸ (service.chronicle _ steps).sound .empty
  have hdomain : d.store.InDomain :=
    hstore ▸ (service.chronicle { desk with store := {} } steps).inDomain
  refine ⟨fun hnone => ?_, fun user huser hu => ⟨fun hnone => ?_, fun item hitem hi => ?_⟩⟩
  · exact bind_stopped (Market.buy_notFound hd huserId hitemId
      (Market.findPair_noUser hd huserId.bytes hnone))
  · have hfound := (Store.user?_eq_some_iff hs.userIds).2 ⟨huser, hu⟩
    exact bind_stopped (Market.buy_notFound hd huserId hitemId
      (Market.findPair_noItem hd huserId.bytes hitemId.bytes hfound hnone))
  · have hpair := Market.findPair_ready hd huserId.bytes hitemId.bytes
      ((Store.user?_eq_some_iff hs.userIds).2 ⟨huser, hu⟩)
      ((Store.item?_eq_some_iff hs.itemIds).2 ⟨hitem, hi⟩)
    refine ⟨fun hgems => ?_, fun hgems hcoins => ?_, fun hgems hcoins => ?_⟩
    · exact ⟨_, short_insufficient hgems,
        bind_stopped (Market.buy_insufficient hd huserId hitemId hpair (.inl ⟨hgems, rfl⟩))⟩
    · exact ⟨_, short_insufficient hcoins, bind_stopped (Market.buy_insufficient hd huserId hitemId
        hpair (.inr ⟨Int.not_lt.2 hgems, hcoins, rfl⟩))⟩
    · subst hu hi
      exact ⟨d.store.sold m.now user item, Store.bought_sold hs hgems hcoins,
        bind_ready (Market.buy_ready hd hm hs hdomain huserId hitemId huser hitem hgems hcoins)⟩

namespace Till

/-- A user with 20 coins. -/
def ada : User := { Savings.ada with coins := 20 }

/-- The desk before the first purchase. -/
def desk : Desk :=
  { store :=
      { users := [ada], items := [Savings.hat], stats := [{ id := "stats", userId := "ada" }] } }

theorem run_savings : desk.store =
    (Savings.service.run { Savings.desk with store := {} } (Savings.steps.take 3)).store :=
  .symm (congrArg (·.store) (Savings.service.run_ada Savings.noon.now "ada" "stats" ["hat"] _))

end Till

open Till in
/-- Buying the hat for 3 coins instead of 5, with blanks around its id. -/
theorem purchase_complete_till :
    ∃ s, Bought ⟨0⟩ desk.store ada Savings.hat s ∧
      Savings.service.perform Savings.noon (.buy (.text "ada") (.text " hat ")) desk =
        .ok .done { desk with store := s } := by
  have huserId : Input.Names (.text "ada") "user_id" "ada" := Input.names_text rfl
  have hitemId : Input.Names (.text " hat ") "item_id" "hat" := Input.names_text rfl
  have hada := (purchase_complete (m := Savings.noon) run_savings ⟨rfl, rfl, rfl⟩ rfl huserId
    hitemId).2 ada (.head _) rfl
  exact (hada.2 Savings.hat (.head _) rfl).2.2 (by decide) (by decide)

end Guildhall
