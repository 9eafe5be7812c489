/-
Guildhall/Proofs/Refund.lean

What comes of throwing an item away, in full.  The user is looked for, then the item, then
the possession; the first look that fails decides.  If all three are there, the user gets
the base price of the item, whatever it costs at the moment, and does not have it any more:

    throwAway m userId itemId d = .ok () { d with store := d.store.returned m.now user item }

unless a balance would not fit into its column.  Nothing looks at the balances before they
are written, so it is the statement that is turned down then, and the unit of work that
takes everything back.

An item that is not on sale costs its base price.  So a purchase of it that is followed by
its return comes to nothing (`Store.returned_sold`): the balance of after the return is the
one of before the purchase, which fits.

Main statement: `refund_complete`.
-/
import Guildhall.Proofs.Commuting
import Guildhall.Proofs.Escape
import Guildhall.Proofs.Purchase

namespace Guildhall

open Session

variable {m : Moment} {d : Desk} {s : Store} {now : Instant} {user : User} {item : Item}

/-! ### The store after a return -/

/-- A user after getting a price back. -/
def User.refunded (now : Instant) (u : User) (price : Price Int) : User :=
  u.withBalances now (u.coins + price.coins) (u.gems + price.gems)

/-- An item that is not on sale costs its base price. -/
theorem Item.price_of_onSale (h : item.onSale = false) : item.price = item.base := by
  unfold price Price.active
  rw [h]
  rfl

/-- A store after a user has given an item back. -/
def Store.returned (now : Instant) (s : Store) (user : User) (item : Item) : Store :=
  { s with
    users := Rows.put (·.id) (user.refunded now item.base) s.users
    possessions := s.possessions.filter (·.key ≠ (user.id, item.id)) }

/-- What the return of an item makes of a store: the user has the base price and does not
have the item, and nothing else is different. -/
structure Returned (now : Instant) (s : Store) (user : User) (item : Item) (s' : Store) :
    Prop where
  /-- The balances are higher by the base price, on sale or not, and of the other columns of
  this user at most the time of the last change is different; the other users are the same. -/
  users : ∃ stamp, (stamp = user.updatedAt ∨ stamp = now) ∧
    s'.users = Rows.put (·.id)
      { user with
        coins := user.coins + item.base.coins
        gems := user.gems + item.base.gems
        updatedAt := stamp } s.users
  /-- The possession is removed, worn or not, and no other one. -/
  possessions : s'.possessions = s.possessions.filter (·.key ≠ (user.id, item.id))
  items : s'.items = s.items
  stats : s'.stats = s.stats
  news : s'.news = s.news

theorem Store.returned_returned : Returned now s user item (s.returned now user item) where
  users := ⟨_, user.withBalances_updatedAt now _ _, rfl⟩
  possessions := rfl
  items := rfl
  stats := rfl
  news := rfl

/-- **The return of an item undoes its purchase**, if the item is not on sale and the user
did not have it before.  The time at which the user was changed last may be another one. -/
theorem Store.returned_sold (now now' : Instant) (hsale : item.onSale = false)
    (hnew : ∀ p ∈ s.possessions, p.key ≠ (user.id, item.id)) :
    ∃ stamp, (s.sold now user item).returned now' (user.paid now item.price) item =
      { s with users := Rows.put (·.id) { user with updatedAt := stamp } s.users } := by
  have huser : (user.paid now item.price).refunded now' item.base = { user with
      updatedAt := ((user.paid now item.price).refunded now' item.base).updatedAt } := by
    rw [Item.price_of_onSale hsale]
    show User.mk .. = User.mk ..
    congr 1
    · exact Int.sub_add_cancel _ _
    · exact Int.sub_add_cancel _ _
  have husers : Rows.put (·.id) ((user.paid now item.price).refunded now' item.base)
      (s.sold now user item).users = Rows.put (·.id) { user with
        updatedAt := ((user.paid now item.price).refunded now' item.base).updatedAt } s.users := by
    rw [← huser]
    exact Rows.put_put rfl
  have hpossessions : (s.sold now user item).possessions.filter
      (·.key ≠ ((user.paid now item.price).id, item.id)) = s.possessions := by
    refine handedOver_others.trans (List.filter_eq_self.2 fun p hp => ?_)
    exact decide_eq_true (hnew p hp)
  refine ⟨((user.paid now item.price).refunded now' item.base).updatedAt, ?_⟩
  unfold returned
  rw [husers, hpossessions]
  rfl

/-! ### Returns that succeed -/

namespace Market

variable {userId itemId : Value}

/-- **Throwing away an item that the user has**, if the refund fits into the columns. -/
theorem throwAway_ready (hd : d.Ready) (hm : m.fault = none) (hs : d.store.Sound)
    (hdomain : d.store.InDomain) (huserId : Input.Names userId "user_id" user.id)
    (hitemId : Input.Names itemId "item_id" item.id) (huser : user ∈ d.store.users)
    (hitem : item ∈ d.store.items) (hheld : ∃ p ∈ d.store.possessions, p.key = (user.id, item.id))
    (hcoins : user.coins + item.base.coins ≤ greatestStored)
    (hgems : user.gems + item.base.gems ≤ greatestStored) :
    throwAway m userId itemId d = .ok () { d with store := d.store.returned m.now user item } := by
  have hpair : findPair userId itemId user.id item.id d = .ok (user, item) d :=
    findPair_ready hd huserId.bytes hitemId.bytes
      ((Store.user?_eq_some_iff hs.userIds).2 ⟨huser, rfl⟩)
      ((Store.item?_eq_some_iff hs.itemIds).2 ⟨hitem, rfl⟩)
  have hthere : ¬(d.store.possession? user.id item.id).isNone = true := by
    obtain ⟨p, hp, hkey⟩ := hheld
    intro hnone
    exact Store.possession?_eq_none_iff.1 (Option.isNone_iff_eq_none.1 hnone) p hp hkey
  have hbefore := hdomain.users user huser
  have hprice := hdomain.items item hitem
  have hwrite := Store.writeUser_withBalances m.now hs huser
    ⟨Int.add_nonneg hbefore.coins.1 hprice.baseCoins.1, hcoins⟩
    ⟨Int.add_nonneg hbefore.gems.1 hprice.baseGems.1, hgems⟩
  unfold throwAway
  rw [huserId.check, hitemId.check]
  refine reporting_ready (transaction_ready hd ?_ (hd.holding _ _))
  rw [bind_ready hpair]
  dsimp only
  rw [bind_ready (store_ready hd), if_neg hthere, bind_ready (run_ready hd hwrite)]
  have hdelete : run (fun s => .ok (s.deletePossession user.id item.id)) { d with
      store := { d.store with
        users := Rows.put (·.id) (user.refunded m.now item.base) d.store.users } } =
      .ok () { d with store := d.store.returned m.now user item } :=
    run_ready (hd.holding _ _) (congrArg Except.ok (Store.deletePossession_eq _ _ _))
  exact (bind_ready hdelete).trans (flush_ready (hd.holding _ _) hm)

/-! ### Returns that fail -/

variable {u i : String}

/-- An item is not thrown away where the pair is not found. -/
theorem throwAway_notFound {f : Failure} (hd : d.Ready)
    (huserId : Input.Names userId "user_id" u) (hitemId : Input.Names itemId "item_id" i)
    (hpair : findPair userId itemId u i d = .error (.failure f) d) :
    throwAway m userId itemId d = .error (.failure f) d := by
  unfold throwAway
  rw [huserId.check, hitemId.check]
  exact refused_ready hd (bind_stopped hpair)

theorem throwAway_notHeld (hd : d.Ready) (huserId : Input.Names userId "user_id" u)
    (hitemId : Input.Names itemId "item_id" i)
    (hpair : findPair userId itemId u i d = .ok (user, item) d)
    (hnone : ∀ p ∈ d.store.possessions, p.key ≠ (u, i)) :
    throwAway m userId itemId d =
      .error (.failure (.notFound "Possession" (pairName u i))) d := by
  unfold throwAway
  rw [huserId.check, hitemId.check]
  refine refused_ready hd ?_
  rw [bind_ready hpair]
  dsimp only
  rw [bind_ready (store_ready hd), Store.possession?_eq_none_iff.2 hnone]
  rfl

end Market

/-- A call that is aimed at a user leaves the desk as it was if it stops. -/
theorem Service.stopped_aimed (service : Service) {call : Call} {stop : Stop} (hd : d.Ready)
    (haims : call.AimsAt s user) (hhalts : Halts (service.perform m call) d stop) :
    service.perform m call d = .error stop d := by
  obtain ⟨d', h⟩ := hhalts
  obtain ⟨s', hleft⟩ := service.steady_perform m haims d hd.trouble
  have hkept : d'.store = d.store := (service.atomic_perform m call d stop d' h).store
  rw [h] at hleft ⊢
  obtain rfl : d' = { d with store := s' } := hleft
  rw [show s' = d.store from hkept]

/-! ### Returns after a purchase -/

/-- A purchase that gives an answer, at whatever moment, has sold the item. -/
theorem Service.sold_of_buy {service : Service} {userId itemId : Value} {answer : Answer}
    {d' : Desk} (hd : d.Ready) (hs : d.store.Sound) (hdomain : d.store.InDomain)
    (huserId : Input.Names userId "user_id" user.id)
    (hitemId : Input.Names itemId "item_id" item.id) (huser : user ∈ d.store.users)
    (hitem : item ∈ d.store.items)
    (h : service.perform m (.buy userId itemId) d = .ok answer d') :
    d' = { d with store := d.store.sold m.now user item } := by
  have hbefore := hdomain.users user huser
  obtain ⟨hpriceCoins, hpriceGems⟩ := (hdomain.items item hitem).price
  -- What the deed has found is this user and this item.
  have hpaid : ∀ {user' : User} {item' : Item} {s₁ : Store}, d.store.user? user.id = some user' →
      d.store.item? item.id = some item' → item'.price.gems ≤ user'.gems →
      item'.price.coins ≤ user'.coins →
      d.store.writeUser m.now { user' with
        coins := user'.coins - item'.price.coins
        gems := user'.gems - item'.price.gems } = .ok s₁ →
      s₁ = { d.store with
        users := Rows.put (·.id) (user.paid m.now item.price) d.store.users } := by
    intro user' item' s₁ huser' hitem' hgems hcoins hwrite
    obtain rfl := Option.some.inj
      (((Store.user?_eq_some_iff hs.userIds).2 ⟨huser, rfl⟩).symm.trans huser')
    obtain rfl := Option.some.inj
      (((Store.item?_eq_some_iff hs.itemIds).2 ⟨hitem, rfl⟩).symm.trans hitem')
    exact Except.ok.inj (hwrite.symm.trans (Store.writeUser_withBalances m.now hs huser
      (hbefore.coins.minus hpriceCoins hcoins) (hbefore.gems.minus hpriceGems hgems)))
  have hsold : d'.store = d.store.sold m.now user item := by
    have hdeed := Service.deed_of_perform h
    generalize d'.store = s' at hdeed ⊢
    unfold Store.sold Store.handedOver
    cases hdeed with
    | look hlooks => cases hlooks
    | buy huserId' hitemId' huser' hitem' hgems hcoins hwrite hnew hinsert =>
      obtain rfl := Except.ok.inj (huserId.check.symm.trans huserId')
      obtain rfl := Except.ok.inj (hitemId.check.symm.trans hitemId')
      obtain rfl := hpaid huser' hitem' hgems hcoins hwrite
      obtain ⟨-, -, hinserted⟩ := Store.insertPossession_eq_ok.1 hinsert
      rw [hnew, hinserted]
      rfl
    | buyAgain huserId' hitemId' huser' hitem' hgems hcoins hwrite hheld =>
      obtain rfl := Except.ok.inj (huserId.check.symm.trans huserId')
      obtain rfl := Except.ok.inj (hitemId.check.symm.trans hitemId')
      rw [hpaid huser' hitem' hgems hcoins hwrite] at hheld ⊢
      rw [if_neg (by simpa using Option.isSome_iff_ne_none.1 hheld)]
  obtain ⟨s', hleft⟩ :=
    service.steady_perform m (Call.AimsAt.buy (s := d.store) huserId.check) d hd.trouble
  rw [h] at hleft
  obtain rfl : d' = { d with store := s' } := hleft
  rw [← hsold]

/-- A purchase that has been made can be taken back, and then it is as if there had not
been one. -/
theorem Service.throwAway_of_buy {service : Service} {m' : Moment} {userId itemId : Value}
    {answer : Answer} {d' : Desk} (hd : d.Ready) (hm : m.fault = none) (hs : d.store.Sound)
    (hdomain : d.store.InDomain) (huserId : Input.Names userId "user_id" user.id)
    (hitemId : Input.Names itemId "item_id" item.id) (huser : user ∈ d.store.users)
    (hitem : item ∈ d.store.items) (hsale : item.onSale = false)
    (hnew : ∀ p ∈ d.store.possessions, p.key ≠ (user.id, item.id))
    (h : service.perform m' (.buy userId itemId) d = .ok answer d') :
    ∃ stamp, service.perform m (.throwAway userId itemId) d' = .ok .done { d with
      store := { d.store with
        users := Rows.put (·.id) { user with updatedAt := stamp } d.store.users } } := by
  have hdeed := Service.deed_of_perform h
  obtain rfl := Service.sold_of_buy hd hs hdomain huserId hitemId huser hitem h
  have hbefore := hdomain.users user huser
  have hpayer : user.paid m'.now item.price ∈ (d.store.sold m'.now user item).users :=
    Rows.mem_put_of_mem huser rfl
  have hheld : ⟨user.id, item.id, (d.store.possession? user.id item.id).any (·.equipped)⟩ ∈
      (d.store.sold m'.now user item).possessions.filter (·.key = (user.id, item.id)) := by
    rw [show (d.store.sold m'.now user item).possessions.filter (·.key = (user.id, item.id)) = _
      from Store.handedOver_key hs.possessionKeys]
    exact List.mem_singleton_self _
  obtain ⟨stamp, hundone⟩ := Store.returned_sold m'.now m.now hsale hnew
  -- The balances that come out are those of before, which fit.
  have hcoins : user.coins - item.price.coins + item.base.coins ≤ greatestStored := by
    rw [Item.price_of_onSale hsale, Int.sub_add_cancel]
    exact hbefore.coins.2
  have hgems : user.gems - item.price.gems + item.base.gems ≤ greatestStored := by
    rw [Item.price_of_onSale hsale, Int.sub_add_cancel]
    exact hbefore.gems.2
  have hdone : Market.throwAway m userId itemId { d with store := d.store.sold m'.now user item } =
      .ok () { d with store := { d.store with
        users := Rows.put (·.id) { user with updatedAt := stamp } d.store.users } } := by
    rw [← hundone]
    exact Market.throwAway_ready (hd.holding _ _) hm (hs.deed hdeed) (hdomain.deed hdeed hs) huserId
      hitemId hpayer hitem ⟨_, (List.mem_filter.1 hheld).1, rfl⟩ hcoins hgems
  exact ⟨stamp, bind_ready hdone⟩

/-- **What comes of throwing an item away**, at every store that a run from empty tables
reaches and for all ids that name keys.  The three looks that can fail come in this
order, and each of them leaves the desk as it was, as does a refund that does not fit.  A
purchase of an item that is not on sale by a user who does not have it is undone. -/
theorem refund_complete {service : Service} {desk : Desk} {steps : List Step}
    (hstore : d.store = (service.run { desk with store := {} } steps).store) (hd : d.Ready)
    (hm : m.fault = none) {userId itemId : Value} {u i : String}
    (huserId : Input.Names userId "user_id" u) (hitemId : Input.Names itemId "item_id" i) :
    ((∀ user ∈ d.store.users, user.id ≠ u) →
      service.perform m (.throwAway userId itemId) d =
        .error (.failure (.notFound "User" (.text u))) d) ∧
    ∀ user ∈ d.store.users, user.id = u →
      ((∀ item ∈ d.store.items, item.id ≠ i) →
        service.perform m (.throwAway userId itemId) d =
          .error (.failure (.notFound "Item" (.text i))) d) ∧
      ∀ item ∈ d.store.items, item.id = i →
        ((∀ p ∈ d.store.possessions, p.key ≠ (u, i)) →
          service.perform m (.throwAway userId itemId) d =
            .error (.failure (.notFound "Possession" (Market.pairName u i))) d) ∧
        ((∃ p ∈ d.store.possessions, p.key = (u, i)) →
          (user.coins + item.base.coins ≤ greatestStored →
            user.gems + item.base.gems ≤ greatestStored →
            ∃ s, Returned m.now d.store user item s ∧
              service.perform m (.throwAway userId itemId) d = .ok .done { d with store := s }) ∧
          (greatestStored < user.coins + item.base.coins ∨
            greatestStored < user.gems + item.base.gems →
            service.perform m (.throwAway userId itemId) d = .error .overflow d)) ∧
        (item.onSale = false → (∀ p ∈ d.store.possessions, p.key ≠ (u, i)) →
          ∀ m' answer d', service.perform m' (.buy userId itemId) d = .ok answer d' →
            ∃ stamp, service.perform m (.throwAway userId itemId) d' = .ok .done { d with
              store := { d.store with
                users := Rows.put (·.id) { user with updatedAt := stamp } d.store.users } }) := by
  have hs : d.store.Sound := hstore ▸ (service.chronicle _ steps).sound .empty
  have hdomain : d.store.InDomain :=
    hstore ▸ (service.chronicle { desk with store := {} } steps).inDomain
  refine ⟨fun hnone => ?_, fun user huser hu => ⟨fun hnone => ?_, fun item hitem hi => ?_⟩⟩
  · exact bind_stopped (Market.throwAway_notFound hd huserId hitemId
      (Market.findPair_noUser hd huserId.bytes hnone))
  · have hfound := (Store.user?_eq_some_iff hs.userIds).2 ⟨huser, hu⟩
    exact bind_stopped (Market.throwAway_notFound hd huserId hitemId
      (Market.findPair_noItem hd huserId.bytes hitemId.bytes hfound hnone))
  · subst hu hi
    have hfound := (Store.user?_eq_some_iff hs.userIds).2 ⟨huser, rfl⟩
    have hfoundItem := (Store.item?_eq_some_iff hs.itemIds).2 ⟨hitem, rfl⟩
    refine ⟨fun hnone => ?_, fun hheld => ⟨fun hcoins hgems => ?_, fun hlarge => ?_⟩,
      fun hsale hnew m' answer d' h => ?_⟩
    · exact bind_stopped (Market.throwAway_notHeld hd huserId hitemId
        (Market.findPair_ready hd huserId.bytes hitemId.bytes hfound hfoundItem) hnone)
    · exact ⟨_, Store.returned_returned, bind_ready (Market.throwAway_ready hd hm hs hdomain huserId
        hitemId huser hitem hheld hcoins hgems)⟩
    · have hthere : (d.store.possession? user.id item.id).isSome := by
        obtain ⟨p, hp, hkey⟩ := hheld
        exact List.find?_isSome.2 ⟨p, hp, Store.isKey_iff.2 hkey⟩
      exact service.stopped_aimed hd (Call.AimsAt.throwAway (s := d.store) huserId.check)
        (Market.halts_throwAway hd hdomain huserId hitemId hfound hfoundItem hthere hlarge).first
    · exact Service.throwAway_of_buy hd hm hs hdomain huserId hitemId huser hitem hsale hnew h

namespace Counter

/-- A user who has bought the hat for 3 coins of 20. -/
def ada : User := { Savings.ada with coins := 17 }

/-- An item that is not on sale. -/
def cap : Item :=
  { id := "cap", name := "cap", slot := 1, imageId := "q", base := ⟨5, 0⟩, createdAt := ⟨0⟩,
    updatedAt := ⟨0⟩ }

/-- The desk after that, with another item. -/
def desk : Desk :=
  { store :=
      { users := [ada], items := [Savings.hat, cap], possessions := [⟨"ada", "hat", false⟩]
        stats := [{ id := "stats", userId := "ada" }] } }

/-- Ids to come. -/
def start : Desk := { supply := { prepared := ["ada", "stats", "hat", "cap"] } }

/-- The calls that lead there. -/
def steps : List Step :=
  Savings.steps.take 4 ++
    [⟨Savings.noon, .createItem { name := .text "cap", slot := .int 1, imageId := .text "q",
                                  coins := .int 5 }⟩]

theorem run_steps :
    desk.store = (Savings.service.run { start with store := {} } steps).store :=
  have hrun := Savings.service.run_ada Savings.noon.now "ada" "stats" ["hat", "cap"]
  .symm (congrArg (·.store) (hrun _))

/-- The desk after the cap has been bought too. -/
def bought : Desk :=
  { store :=
      { desk.store with
        users := [{ ada with coins := 12 }]
        possessions := [⟨"ada", "hat", false⟩, ⟨"ada", "cap", false⟩] } }

theorem buy_cap : Savings.service.perform Savings.noon (.buy (.text "ada") (.text "cap")) desk =
    .ok .done bought := rfl

end Counter

open Counter in
/-- The hat is given back for 5 coins, though it is on sale for 3.  The cap is bought and
given back, which comes to nothing. -/
theorem refund_complete_counter :
    (∃ s, Returned ⟨0⟩ desk.store ada Savings.hat s ∧
      Savings.service.perform Savings.noon (.throwAway (.text "ada") (.text " hat ")) desk =
        .ok .done { desk with store := s }) ∧
    ∃ stamp,
      Savings.service.perform Savings.noon (.throwAway (.text "ada") (.text "cap")) bought =
        .ok .done { desk with store := { desk.store with
          users := Rows.put (·.id) { ada with updatedAt := stamp } desk.store.users } } := by
  have hada : Input.Names (.text "ada") "user_id" "ada" := Input.names_text rfl
  have hhat : Input.Names (.text " hat ") "item_id" "hat" := Input.names_text rfl
  have hcap : Input.Names (.text "cap") "item_id" "cap" := Input.names_text rfl
  have hheld : ∃ p ∈ desk.store.possessions, p.key = ("ada", "hat") := ⟨_, .head _, rfl⟩
  have hrefund := (refund_complete (m := Savings.noon) run_steps ⟨rfl, rfl, rfl⟩ rfl hada hhat).2
    ada (.head _) rfl
  have hundo := (refund_complete (m := Savings.noon) run_steps ⟨rfl, rfl, rfl⟩ rfl hada hcap).2
    ada (.head _) rfl
  refine ⟨((hrefund.2 Savings.hat (.head _) rfl).2.1 hheld).1 (by decide) (by decide), ?_⟩
  exact (hundo.2 cap (.tail _ (.head _)) rfl).2.2 rfl (by decide) _ _ _ buy_cap

end Guildhall
