/-
Guildhall/Proofs/Domain.lean

The values that the columns hold.  Balances, counters and slots are counts, which a
column can hold and which are not negative; prices are amounts; names, titles and
images are labels and email addresses have their shape.  What comes in has passed its
check, and what is computed is looked at before it is written: the sum of a grant and
of a match by `Input.total`, what a purchase leaves and a refund makes by the statement
that writes the user.  So every deed keeps the columns in their domains, whatever the
numbers are, and every run does.

Main statements: `Store.InDomain.deed` and `Service.inDomain_run`.
-/
import Guildhall.Proofs.Identity
import Guildhall.Proofs.Input

namespace Guildhall

open Input

/-! ### Domains -/

/-- A number that is not negative and that a column can hold. -/
def IsCount (n : Int) : Prop := 0 ≤ n ∧ n ≤ 9223372036854775807

/-- A number that can be a price: not negative and at most 2^62. -/
def IsPrice (n : Int) : Prop := 0 ≤ n ∧ n ≤ 4611686018427387904

/-- A user whose columns are in their domains. -/
structure User.InDomain (u : User) : Prop where
  name : IsLabel 64 u.name
  email : IsLabel 255 u.email
  shape : IsAddress u.email
  coins : IsCount u.coins
  gems : IsCount u.gems

/-- An item whose columns are in their domains. -/
structure Item.InDomain (i : Item) : Prop where
  name : IsLabel 128 i.name
  imageId : IsLabel 128 i.imageId
  slot : IsCount i.slot
  baseCoins : IsPrice i.base.coins
  baseGems : IsPrice i.base.gems
  saleCoins : IsPrice i.sale.coins
  saleGems : IsPrice i.sale.gems

/-- A row of statistics whose columns are in their domains. -/
structure Stats.InDomain (row : Stats) : Prop where
  kills : IsCount row.kills
  games : IsCount row.games
  top5 : IsCount row.top5
  wins : IsCount row.wins

/-- A store whose columns are in their domains. -/
structure Store.InDomain (s : Store) : Prop where
  users : ∀ u ∈ s.users, u.InDomain
  items : ∀ i ∈ s.items, i.InDomain
  stats : ∀ row ∈ s.stats, row.InDomain
  titles : ∀ n ∈ s.news, IsLabel 255 n.title

/-! ### Numbers -/

theorem isCount_zero : IsCount 0 := ⟨Int.le_refl 0, by decide⟩

/-- An amount can be a price. -/
theorem isPrice_of_amount {v : Value} {field : String} {n : Int} (h : amount v field = .ok n) :
    IsPrice n := amount_bounds h

/-- An amount that is added to a count makes a count, if the sum passes. -/
theorem IsCount.total {current delta n : Int} {v : Value} {field field' : String}
    (hcurrent : IsCount current) (hdelta : amount v field = .ok delta)
    (hn : total current delta field' = .ok n) : IsCount n := by
  obtain ⟨hle, rfl⟩ := total_eq_ok.1 hn
  exact ⟨Int.add_nonneg hcurrent.1 (amount_bounds hdelta).1, hle⟩

/-- What an item costs is a price, on sale or not. -/
theorem Item.InDomain.price {i : Item} (h : i.InDomain) :
    IsPrice i.price.coins ∧ IsPrice i.price.gems := by
  unfold Item.price Price.active
  split
  · exact ⟨h.saleCoins, h.saleGems⟩
  · exact ⟨h.baseCoins, h.baseGems⟩

/-! ### Changes of items -/

namespace Catalogue

/-- A number that may be left out is zero or has passed its check. -/
theorem optionalNumber_eq_ok {v : Value} {check : Value → Except Stop Int} {n : Int}
    (h : optionalNumber v check = .ok n) : n = 0 ∨ check v = .ok n := by
  unfold optionalNumber at h
  split at h
  · exact .inl (Except.ok.inj h).symm
  · exact .inr h

/-- A change whose values are in the domains of their columns.  Nothing is said yet
of how large the slot is. -/
structure Merge.InDomain (c : Merge) : Prop where
  name : ∀ n ∈ c.name, IsLabel 128 n
  imageId : ∀ i ∈ c.imageId, IsLabel 128 i
  slot : 0 ≤ c.slot
  coins : IsPrice c.coins
  gems : IsPrice c.gems
  saleCoins : IsPrice c.saleCoins
  saleGems : IsPrice c.saleGems

theorem Change.inDomain_of_check {c : Change} {merge : Merge} (h : c.check = .ok merge) :
    merge.InDomain := by
  have hprice : ∀ {v : Value} {field : String} {n : Int},
      (optionalNumber v fun v => amount v field) = .ok n → IsPrice n := by
    intro v field n h
    rcases optionalNumber_eq_ok h with rfl | h
    · exact ⟨Int.le_refl 0, by decide⟩
    · exact isPrice_of_amount h
  obtain ⟨name, hname, h⟩ := Except.bind_eq_ok.1 h
  obtain ⟨imageId, himage, h⟩ := Except.bind_eq_ok.1 h
  obtain ⟨description, -, h⟩ := Except.bind_eq_ok.1 h
  obtain ⟨slot, hslot, h⟩ := Except.bind_eq_ok.1 h
  obtain ⟨coins, hcoins, h⟩ := Except.bind_eq_ok.1 h
  obtain ⟨gems, hgems, h⟩ := Except.bind_eq_ok.1 h
  obtain ⟨saleCoins, hsaleCoins, h⟩ := Except.bind_eq_ok.1 h
  obtain ⟨saleGems, hsaleGems, h⟩ := Except.bind_eq_ok.1 h
  obtain rfl := Input.pure_eq_ok.1 h
  refine ⟨isLabel_of_optionalText 128 hname,
    isLabel_of_optionalText 128 himage, ?_, hprice hcoins, hprice hgems,
    hprice hsaleCoins, hprice hsaleGems⟩
  rcases optionalNumber_eq_ok hslot with rfl | hslot
  · exact Int.le_refl 0
  · exact (integer_eq_ok.1 hslot).2.1 0 rfl

theorem orNumber_cases {P : Int → Prop} {n before : Int} (hn : P n) (hbefore : P before) :
    P (orNumber n before) := by
  unfold orNumber
  split
  · exact hbefore
  · exact hn

theorem getD_cases {P : String → Prop} {t? : Option String} {before : String}
    (ht : ∀ t ∈ t?, P t) (hbefore : P before) : P (t?.getD before) := by
  cases t? with
  | none => exact hbefore
  | some t => exact ht t rfl

/-- A change leaves an item in its domain if a column can hold the slot. -/
theorem Merge.InDomain.apply {c : Merge} {i : Item} (hc : c.InDomain) (hi : i.InDomain)
    (hslot : (c.apply i).slot ≤ greatestStored) : (c.apply i).InDomain where
  name := getD_cases hc.name hi.name
  imageId := getD_cases hc.imageId hi.imageId
  slot := ⟨orNumber_cases hc.slot hi.slot.1, hslot⟩
  baseCoins := orNumber_cases hc.coins hi.baseCoins
  baseGems := orNumber_cases hc.gems hi.baseGems
  saleCoins := by
    unfold Merge.apply
    dsimp only
    split
    · exact hc.saleCoins
    · exact hi.saleCoins
  saleGems := by
    unfold Merge.apply
    dsimp only
    split
    · exact hc.saleGems
    · exact hi.saleGems

end Catalogue

/-! ### Deeds -/

namespace Store.InDomain

variable {s s' s₁ s₂ : Store} {m : Moment}

theorem empty : ({} : Store).InDomain := by
  constructor <;> rintro _ ⟨⟩

/-- A registration adds empty balances and empty statistics. -/
theorem register (hd : s.InDomain) {name email : Value} {id n e password : String} {row : Stats}
    (hname : text name "name" (some nameLimit) = .ok n)
    (hemail : Input.email email "email" = .ok e) (hrow : row.InDomain)
    (huser : s.insertUser (Registry.newcomer m.now id n e password) = .ok s₁)
    (hstats : s₁.insertStats row = .ok s₂) : s₂.InDomain := by
  obtain ⟨-, -, -, rfl⟩ := insertUser_eq_ok.1 huser
  obtain ⟨-, -, -, rfl⟩ := insertStats_eq_ok.1 hstats
  obtain ⟨hlabel, hshape⟩ := isLabel_of_email hemail
  refine { hd with users := ?_, stats := ?_ }
  · intro u hu
    rcases List.mem_append.1 hu with hu | hu
    · exact hd.users u hu
    · obtain rfl := List.mem_singleton.1 hu
      exact ⟨isLabel_of_text 64 hname, hlabel, hshape, isCount_zero, isCount_zero⟩
  · intro r hr
    rcases List.mem_append.1 hr with hr | hr
    · exact hd.stats r hr
    · exact List.mem_singleton.1 hr ▸ hrow

/-- A user who is written has balances that have been looked at, whatever was taken
from them or added to them. -/
theorem writeUser (hd : s.InDomain) (hs : s.Sound) {u old : User} (hold : old ∈ s.users)
    (h : s.writeUser m.now u = .ok s') (hidentity : u.identity = old.identity) :
    s'.InDomain := by
  have hid : u.id = old.id := congrArg Identity.id hidentity
  have hname : u.name = old.name := congrArg Identity.name hidentity
  have hemail : u.email = old.email := congrArg Identity.email hidentity
  obtain ⟨stamp, hstamp, rfl⟩ := writeUser_eq_ok hs.userIds hold h hid
  have hdomain := hd.users old hold
  refine { hd with users := fun v hv => ?_ }
  rcases Rows.mem_put hv with rfl | ⟨hv, -⟩
  · rcases hstamp with hsame | ⟨-, hfits, hcoins, hgems⟩
    · exact hsame ▸ hdomain
    · exact { name := hname ▸ hdomain.name
              email := hemail ▸ hdomain.email
              shape := hemail ▸ hdomain.shape
              coins := ⟨hcoins, (hfits _ (.head _)).2⟩
              gems := ⟨hgems, (hfits _ (.tail _ (.head _))).2⟩ }
  · exact hd.users v hv

theorem insertItem (hd : s.InDomain) {i : Item} (hi : i.slot ≤ greatestStored → i.InDomain)
    (h : s.insertItem i = .ok s') : s'.InDomain := by
  obtain ⟨hfits, -, rfl⟩ := insertItem_eq_ok.1 h
  refine { hd with items := fun j hj => ?_ }
  rcases List.mem_append.1 hj with hj | hj
  · exact hd.items j hj
  · exact List.mem_singleton.1 hj ▸ hi (hfits _ (.head _)).2

theorem writeItem (hd : s.InDomain) (hs : s.Sound) {i old : Item} (hold : old ∈ s.items)
    (h : s.writeItem m.now i = .ok s') (hid : i.id = old.id)
    (hi : i.slot ≤ greatestStored → i.InDomain) : s'.InDomain := by
  obtain ⟨stamp, hstamp, rfl⟩ := writeItem_eq_ok hs.itemIds hold h hid
  refine { hd with items := fun j hj => ?_ }
  rcases Rows.mem_put hj with rfl | ⟨hj, -⟩
  · rcases hstamp with hsame | ⟨-, hfits, -⟩
    · exact hsame ▸ hd.items old hold
    · exact { hi (hfits _ (.head _)).2 with }
  · exact hd.items j hj

theorem writeStats (hd : s.InDomain) {row : Stats} (hrow : row.InDomain)
    (h : s.writeStats row = .ok s') : s'.InDomain := by
  obtain ⟨-, rfl⟩ := writeStats_eq_ok.1 h
  refine { hd with stats := fun r hr => ?_ }
  rcases Rows.mem_put hr with rfl | ⟨hr, -⟩
  · exact hrow
  · exact hd.stats r hr

theorem insertNews (hd : s.InDomain) {n : News} (hn : IsLabel 255 n.title)
    (h : s.insertNews n = .ok s') : s'.InDomain := by
  obtain ⟨-, rfl⟩ := insertNews_eq_ok.1 h
  refine { hd with titles := fun k hk => ?_ }
  rcases List.mem_append.1 hk with hk | hk
  · exact hd.titles k hk
  · exact List.mem_singleton.1 hk ▸ hn

theorem writeNews (hd : s.InDomain) {n : News} (hn : IsLabel 255 n.title)
    (h : s.writeNews n = .ok s') : s'.InDomain := by
  obtain ⟨-, rfl⟩ := writeNews_eq_ok.1 h
  refine { hd with titles := fun k hk => ?_ }
  rcases Rows.mem_put hk with rfl | ⟨hk, -⟩
  · exact hn
  · exact hd.titles k hk

/-- **Every deed keeps the columns in their domains.** -/
theorem deed {call : Call} {answer : Answer} (h : Deed m s call answer s') (hs : s.Sound)
    (hd : s.InDomain) : s'.InDomain := by
  cases h with
  | look => exact hd
  | register hname hemail _ _ _ huser hstats =>
    exact hd.register hname hemail ⟨isCount_zero, isCount_zero, isCount_zero, isCount_zero⟩ huser
      hstats
  | deleteUser =>
    exact { hd with
      users := fun u hu => hd.users u (List.mem_filter.1 hu).1
      stats := fun r hr => hd.stats r (List.mem_filter.1 hr).1 }
  | grant _ _ _ huser _ _ hwrite => exact hd.writeUser hs (mem_of_userByKey? huser) hwrite rfl
  | createItem hname hslot himage _ hcoins hgems hsaleCoins hsaleGems _ _ hinsert =>
    refine hd.insertItem (fun hfits => ?_) hinsert
    exact { name := isLabel_of_text 128 hname
            imageId := isLabel_of_text 128 himage
            slot := ⟨(integer_eq_ok.1 hslot).2.1 0 rfl, hfits⟩
            baseCoins := isPrice_of_amount hcoins
            baseGems := isPrice_of_amount hgems
            saleCoins := isPrice_of_amount hsaleCoins
            saleGems := isPrice_of_amount hsaleGems }
  | updateItem _ hmerge hitem _ hwrite =>
    have hold := mem_of_item? hitem
    have hmerged := (Catalogue.Change.inDomain_of_check hmerge).apply (hd.items _ hold)
    exact hd.writeItem hs hold hwrite rfl hmerged
  | deleteItem => exact { hd with items := fun i hi => hd.items i (List.mem_filter.1 hi).1 }
  | buy _ _ huser _ _ _ hwrite _ hinsert =>
    obtain ⟨-, -, rfl⟩ := insertPossession_eq_ok.1 hinsert
    exact { hd.writeUser hs (mem_of_user? huser) hwrite rfl with }
  | buyAgain _ _ huser _ _ _ hwrite => exact hd.writeUser hs (mem_of_user? huser) hwrite rfl
  | throwAway _ _ huser _ _ hwrite =>
    exact { hd.writeUser hs (mem_of_user? huser) hwrite rfl with }
  | equip =>
    split
    · exact hd
    · rw [Wardrobe.wear_eq]
      exact { hd with }
  | addStats _ hkills hgames htop5 hwins hrow _ hnewKills hnewGames hnewTop5 hnewWins hwrite =>
    have hold := hd.stats _ (Scoreboard.mem_of_singleRow hrow)
    exact hd.writeStats ⟨hold.kills.total hkills hnewKills, hold.games.total hgames hnewGames,
      hold.top5.total htop5 hnewTop5, hold.wins.total hwins hnewWins⟩ hwrite
  | createNews htitle _ _ _ _ hinsert =>
    exact hd.insertNews (isLabel_of_text 255 htitle) hinsert
  | updateNews _ htitle _ _ hnews _ hwrite =>
    refine hd.writeNews ?_ hwrite
    exact Catalogue.getD_cases (isLabel_of_optionalText 255 htitle)
      (hd.titles _ (List.mem_of_find?_eq_some hnews))

end Store.InDomain

/-! ### Runs -/

/-- After the events of a run from empty tables, the columns are in their domains. -/
theorem Chronicle.inDomain {es : List Event} {s : Store} (past : Chronicle {} es s) :
    s.InDomain := by
  induction past with
  | start => exact .empty
  | deed past hdeed ih => exact ih.deed hdeed (past.sound .empty)
  | stop _ ih => exact ih

/-- **Whatever is asked of the service, in whatever order and with whatever arguments,
the columns stay in their domains.** -/
theorem Service.inDomain_run (service : Service) (d : Desk) (steps : List Step) :
    (service.run { d with store := {} } steps).store.InDomain :=
  (service.chronicle { d with store := {} } steps).inDomain

end Guildhall
