/-
Guildhall/Proofs/Completion.lean

Calls that end with an answer.  Each operation is taken apart at its end:
the checks of the arguments have passed, the rows that were looked for were
there, and the statements were carried out.  `…_eq_ok` says what the answer
of an operation that only looks is made of; `deed_of_…` says which deed the
others do.

Main statement: `Service.deed_of_perform`.
-/
import Guildhall.Proofs.Deed
import Guildhall.Proofs.Session
import Guildhall.Proofs.Statement

namespace Guildhall

open Session

variable {m : Moment} {d d' : Desk}

/-! ### Accounts -/

theorem Registry.deed_of_register {name email password : Value} {p : Profile}
    (h : register m name email password d = .ok p d') :
    Deed m d.store (.register name email password) (.profile p) d'.store := by
  obtain ⟨n, hname, h⟩ := after_eq_ok.1 h
  obtain ⟨e, hemail, h⟩ := after_eq_ok.1 h
  obtain ⟨pw, hpassword, h⟩ := after_eq_ok.1 h
  obtain ⟨d₁, h, hd'⟩ := reported_eq_ok h
  obtain ⟨d₂, hd₂, h⟩ := after_store_eq_ok h
  obtain ⟨_, hfree, h⟩ := after_eq_ok.1 h
  obtain ⟨_, hbytes, h⟩ := after_eq_ok.1 h
  -- First the user is written and then the statistics, each with an id of its own.
  obtain ⟨id, d₃, hd₃, h⟩ := after_takeRowId_eq_ok h
  obtain ⟨d₄, huser, h⟩ := after_run_eq_ok h
  obtain ⟨d₅, hd₅, h⟩ := after_flush_eq_ok h
  obtain ⟨statsId, d₆, hd₆, h⟩ := after_takeRowId_eq_ok h
  obtain ⟨d₇, hstats, h⟩ := after_run_eq_ok h
  obtain ⟨d₈, hd₈, h⟩ := after_flush_eq_ok h
  obtain ⟨rfl, rfl⟩ := pure_eq_ok.1 h
  rw [hd₃, hd₂] at huser
  rw [hd₆, hd₅] at hstats
  rw [hd', hd₈]
  exact .register hname hemail hpassword hfree hbytes huser hstats

theorem Registry.read_eq_ok {key : Value} {p : Profile} (h : read key d = .ok p d') :
    ∃ k u, Input.identifier key "id" = .ok k ∧ d.store.userByKey? k = some u ∧ p = profile u ∧
      d'.store = d.store := by
  obtain ⟨k, hkey, h⟩ := after_eq_ok.1 h
  obtain ⟨d₁, h, hd'⟩ := reported_eq_ok h
  obtain ⟨d₂, hd₂, h⟩ := after_storeFor_eq_ok h
  cases huser : d.store.userByKey? k with
  | none =>
    rw [huser] at h
    exact (fail_eq_ok.1 h).elim
  | some u =>
    rw [huser] at h
    obtain ⟨rfl, rfl⟩ := pure_eq_ok.1 h
    exact ⟨k, u, hkey, huser, rfl, hd'.trans hd₂⟩

theorem Registry.deed_of_delete {id : Value} {u : Unit} (h : delete id d = .ok u d') :
    Deed m d.store (.deleteUser id) .done d'.store := by
  obtain ⟨k, hid, h⟩ := after_eq_ok.1 h
  obtain ⟨d₁, h, hd'⟩ := reported_eq_ok h
  obtain ⟨s, hs, hkept⟩ := run_eq_ok h
  obtain ⟨-, -, rfl⟩ := Except.map_eq_ok.1 hs
  rw [hd', hkept.store]
  exact .deleteUser hid

theorem Treasury.deed_of_grant {key addCoins addGems : Value} {b : Balance}
    (h : grant m key addCoins addGems d = .ok b d') :
    Deed m d.store (.grant key addCoins addGems) (.balance b) d'.store := by
  obtain ⟨k, hkey, h⟩ := after_eq_ok.1 h
  obtain ⟨c, hcoins, h⟩ := after_eq_ok.1 h
  obtain ⟨g, hgems, h⟩ := after_eq_ok.1 h
  obtain ⟨d₁, h, hd'⟩ := reported_eq_ok h
  obtain ⟨d₂, hd₂, h⟩ := after_storeFor_eq_ok h
  cases huser : d.store.userByKey? k with
  | none =>
    rw [huser] at h
    exact (fail_eq_ok.1 h).elim
  | some user =>
    rw [huser] at h
    obtain ⟨coins, hnewCoins, h⟩ := after_eq_ok.1 h
    obtain ⟨gems, hnewGems, h⟩ := after_eq_ok.1 h
    obtain ⟨d₃, hwrite, h⟩ := after_run_eq_ok h
    obtain ⟨d₄, hd₄, h⟩ := after_flush_eq_ok h
    obtain ⟨rfl, rfl⟩ := pure_eq_ok.1 h
    rw [hd₂] at hwrite
    rw [hd', hd₄]
    exact .grant hkey hcoins hgems huser hnewCoins hnewGems hwrite

theorem Registry.issueFor_eq_ok {issuer : Token.Issuer} {now : Instant} {u : User} {l : Login}
    (h : issueFor issuer now u d = .ok l d') :
    ∃ issued, issue issuer now ⟨u.id, u.name, u.email, u.isAdmin⟩ d = .ok issued d' ∧
      l = { token := issued.token, expiresAt := issued.expiresAt, isAdmin := u.isAdmin } := by
  unfold issueFor at h
  simp only at h
  split at h
  · rename_i issued done hdone
    cases h
    exact ⟨issued, hdone, rfl⟩
  · split at h <;> cases h

theorem Registry.issue_eq_ok {issuer : Token.Issuer} {now : Instant} {holder : Token.Holder}
    {issued : Token.Issued} (h : issue issuer now holder d = .ok issued d') :
    ∃ expiresAt tokenId, issuer.expiry? now = some expiresAt ∧
      issuer.sign (issuer.claims now expiresAt tokenId holder) = .ok issued ∧
      d'.store = d.store := by
  unfold issue at h
  cases hexpiry : issuer.expiry? now with
  | none =>
    rw [hexpiry] at h
    cases h
  | some expiresAt =>
    rw [hexpiry] at h
    obtain ⟨tokenId, d₁, htake, h⟩ := bind_eq_ok.1 h
    obtain ⟨hsign, rfl⟩ := lift_eq_ok.1 h
    exact ⟨expiresAt, tokenId, rfl, hsign, (takeTokenId_eq_ok htake).store⟩

theorem Registry.login_eq_ok {issuer : Token.Issuer} {key password : Value} {l : Login}
    (h : login issuer m key password d = .ok l d') :
    ∃ k u d₁, lookupText key = .ok (some k) ∧ d.store.userByKey? k = some u ∧
      checkPassword u password = .ok true ∧ d₁.store = d.store ∧
      issueFor issuer m.now u d₁ = .ok l d' := by
  unfold login at h
  obtain ⟨-, h⟩ := guard_eq_ok.1 h
  obtain ⟨found, d₁, hfound, h⟩ := bind_eq_ok.1 h
  obtain ⟨d₂, hlookup, hd₁⟩ := reported_eq_ok hfound
  obtain ⟨k?, hkey, hlookup⟩ := after_eq_ok.1 hlookup
  obtain ⟨d₃, hd₃, hlookup⟩ := after_store_eq_ok hlookup
  obtain ⟨rfl, rfl⟩ := pure_eq_ok.1 hlookup
  cases k? with
  | none => exact (fail_eq_ok.1 h).elim
  | some k =>
    cases huser : d.store.userByKey? k with
    | none =>
      rw [Option.bind_some, huser] at h
      exact (fail_eq_ok.1 h).elim
    | some u =>
      rw [Option.bind_some, huser] at h
      obtain ⟨fits, hfits, h⟩ := after_eq_ok.1 h
      obtain ⟨htrue, h⟩ := guard_eq_ok.1 h
      cases fits with
      | false => exact absurd rfl htrue
      | true => exact ⟨k, u, d₁, hkey, huser, hfits, hd₁.trans hd₃, h⟩

/-! ### The market -/

theorem Market.findPair_eq_ok {givenUser givenItem : Value} {u i : String} {pair : User × Item}
    (h : findPair givenUser givenItem u i d = .ok pair d') :
    d'.store = d.store ∧ d.store.user? u = some pair.1 ∧ d.store.item? i = some pair.2 := by
  obtain ⟨d₁, hd₁, h⟩ := after_storeFor_eq_ok h
  cases huser : d.store.user? u with
  | none =>
    rw [huser] at h
    exact (fail_eq_ok.1 h).elim
  | some user =>
    rw [huser] at h
    obtain ⟨d₂, hd₂, h⟩ := after_storeFor_eq_ok h
    cases hitem : d₁.store.item? i with
    | none =>
      rw [hitem] at h
      exact (fail_eq_ok.1 h).elim
    | some item =>
      rw [hitem] at h
      obtain ⟨rfl, rfl⟩ := pure_eq_ok.1 h
      rw [hd₁] at hitem
      exact ⟨hd₂.trans hd₁, rfl, hitem⟩

theorem Market.deed_of_buy {userId itemId : Value} {r : Unit}
    (h : buy m userId itemId d = .ok r d') :
    Deed m d.store (.buy userId itemId) .done d'.store := by
  obtain ⟨u, huserId, h⟩ := after_eq_ok.1 h
  obtain ⟨i, hitemId, h⟩ := after_eq_ok.1 h
  obtain ⟨d₁, h, hd'⟩ := reported_eq_ok h
  obtain ⟨⟨user, item⟩, d₂, hpair, h⟩ := bind_eq_ok.1 h
  obtain ⟨hd₂, huser, hitem⟩ := findPair_eq_ok hpair
  -- Gems are looked at first, then coins; both are there.
  obtain ⟨hgems, h⟩ := guard_eq_ok.1 h
  obtain ⟨hcoins, h⟩ := guard_eq_ok.1 h
  obtain ⟨d₃, hwrite, h⟩ := after_run_eq_ok h
  obtain ⟨d₄, hd₄, h⟩ := after_flush_eq_ok h
  obtain ⟨d₅, hd₅, h⟩ := after_store_eq_ok h
  rw [hd₂] at hwrite
  rw [hd₄] at h
  rw [hd']
  by_cases hnew : (d₃.store.possession? u i).isNone
  · rw [if_pos hnew] at h
    -- The user did not have the item.
    obtain ⟨d₆, hinsert, h⟩ := after_run_eq_ok h
    rw [hd₅, hd₄] at hinsert
    rw [(flush_eq_ok h).store]
    exact .buy huserId hitemId huser hitem (Int.not_lt.1 hgems) (Int.not_lt.1 hcoins) hwrite
      (Option.isNone_iff_eq_none.1 hnew) hinsert
  · rw [if_neg hnew] at h
    -- The user has paid for an item that the user had.
    obtain ⟨-, rfl⟩ := pure_eq_ok.1 h
    rw [hd₅, hd₄]
    exact .buyAgain huserId hitemId huser hitem (Int.not_lt.1 hgems) (Int.not_lt.1 hcoins) hwrite
      (Option.isSome_iff_ne_none.2 fun h => hnew (h ▸ rfl))

theorem Market.deed_of_throwAway {userId itemId : Value} {r : Unit}
    (h : throwAway m userId itemId d = .ok r d') :
    Deed m d.store (.throwAway userId itemId) .done d'.store := by
  obtain ⟨u, huserId, h⟩ := after_eq_ok.1 h
  obtain ⟨i, hitemId, h⟩ := after_eq_ok.1 h
  obtain ⟨d₁, h, hd'⟩ := reported_eq_ok h
  obtain ⟨⟨user, item⟩, d₂, hpair, h⟩ := bind_eq_ok.1 h
  obtain ⟨hd₂, huser, hitem⟩ := findPair_eq_ok hpair
  obtain ⟨d₃, hd₃, h⟩ := after_store_eq_ok h
  obtain ⟨hheld, h⟩ := guard_eq_ok.1 h
  -- The user is paid before the possession goes.
  obtain ⟨d₄, hwrite, h⟩ := after_run_eq_ok h
  obtain ⟨d₅, hdelete, h⟩ := after_run_eq_ok h
  rw [hd₃, hd₂] at hwrite
  rw [hd₂] at hheld
  rw [hd', (flush_eq_ok h).store, ← Except.ok.inj hdelete]
  exact .throwAway huserId hitemId huser hitem
    (Option.isSome_iff_ne_none.2 fun h => hheld (h ▸ rfl)) hwrite

theorem Wardrobe.deed_of_equip {userId itemId : Value} {f : Fitting}
    (h : equip m userId itemId d = .ok f d') :
    Deed m d.store (.equip userId itemId) (.fitting f) d'.store := by
  obtain ⟨u, huserId, h⟩ := after_eq_ok.1 h
  obtain ⟨i, hitemId, h⟩ := after_eq_ok.1 h
  obtain ⟨d₁, h, hd'⟩ := reported_eq_ok h
  obtain ⟨d₂, hd₂, h⟩ := after_storeFor_eq_ok h
  cases hitem : d.store.item? i with
  | none =>
    rw [hitem] at h
    exact (fail_eq_ok.1 h).elim
  | some item =>
    rw [hitem] at h
    obtain ⟨d₃, hd₃, h⟩ := after_storeFor_eq_ok h
    rw [hd₂] at hd₃ h
    cases htarget : (d.store.possessionsIn u item.slot).find? (·.itemId == i) with
    | none =>
      simp only [htarget] at h
      exact (fail_eq_ok.1 h).elim
    | some target =>
      have hdeed := Deed.equip (m := m) huserId hitemId hitem htarget
      simp only [htarget] at h
      rw [hd']
      by_cases hworn : target.equipped = true
      · rw [if_pos hworn] at h
        -- Worn already: nothing is sent.
        obtain ⟨rfl, rfl⟩ := pure_eq_ok.1 h
        rw [hworn, if_pos rfl] at hdeed
        rw [hd₃]
        exact hdeed
      · rw [if_neg hworn] at h
        obtain ⟨d₄, hwear, h⟩ := after_run_eq_ok h
        obtain ⟨d₅, hd₅, h⟩ := after_flush_eq_ok h
        obtain ⟨rfl, rfl⟩ := pure_eq_ok.1 h
        rw [eq_false_of_ne_true hworn, if_neg Bool.false_ne_true] at hdeed
        rw [hd₃] at hwear
        rw [hd₅, ← Except.ok.inj hwear]
        exact hdeed

/-! ### The catalogue -/

theorem Catalogue.deed_of_create {draft : Draft} {item : Item}
    (h : create m draft d = .ok item d') :
    Deed m d.store (.createItem draft) (.item item) d'.store := by
  obtain ⟨name, hname, h⟩ := after_eq_ok.1 h
  obtain ⟨slot, hslot, h⟩ := after_eq_ok.1 h
  obtain ⟨imageId, himage, h⟩ := after_eq_ok.1 h
  obtain ⟨description, hdescription, h⟩ := after_eq_ok.1 h
  obtain ⟨coins, hcoins, h⟩ := after_eq_ok.1 h
  obtain ⟨gems, hgems, h⟩ := after_eq_ok.1 h
  obtain ⟨saleCoins, hsaleCoins, h⟩ := after_eq_ok.1 h
  obtain ⟨saleGems, hsaleGems, h⟩ := after_eq_ok.1 h
  obtain ⟨d₁, h, hd'⟩ := reported_eq_ok h
  obtain ⟨d₂, hd₂, h⟩ := after_store_eq_ok h
  obtain ⟨_, hunique, h⟩ := after_eq_ok.1 h
  obtain ⟨id, d₃, hd₃, h⟩ := after_takeRowId_eq_ok h
  obtain ⟨_, -, h⟩ := after_eq_ok.1 h
  obtain ⟨d₄, hinsert, h⟩ := after_run_eq_ok h
  obtain ⟨d₅, hd₅, h⟩ := after_flush_eq_ok h
  obtain ⟨rfl, rfl⟩ := pure_eq_ok.1 h
  rw [hd₃, hd₂] at hinsert
  rw [hd', hd₅]
  exact .createItem hname hslot himage hdescription hcoins hgems hsaleCoins hsaleGems hunique
    ⟨rfl, rfl, rfl, rfl⟩ hinsert

theorem Catalogue.deed_of_update {id : Value} {change : Change} {item : Item}
    (h : update m id change d = .ok item d') :
    Deed m d.store (.updateItem id change) (.item item) d'.store := by
  obtain ⟨k, hid, h⟩ := after_eq_ok.1 h
  obtain ⟨merge, hmerge, h⟩ := after_eq_ok.1 h
  obtain ⟨d₁, h, hd'⟩ := reported_eq_ok h
  obtain ⟨d₂, hd₂, h⟩ := after_storeFor_eq_ok h
  cases hitem : d.store.item? k with
  | none =>
    rw [hitem] at h
    exact (fail_eq_ok.1 h).elim
  | some old =>
    rw [hitem] at h
    obtain ⟨d₃, hd₃, h⟩ := after_store_eq_ok h
    obtain ⟨_, hunique, h⟩ := after_eq_ok.1 h
    obtain ⟨_, -, h⟩ := after_eq_ok.1 h
    obtain ⟨d₄, hwrite, h⟩ := after_run_eq_ok h
    obtain ⟨d₅, hd₅, h⟩ := after_flush_eq_ok h
    obtain ⟨d₆, hd₆, h⟩ := after_store_eq_ok h
    obtain ⟨rfl, rfl⟩ := pure_eq_ok.1 h
    rw [hd₂] at hunique
    rw [hd₃, hd₂] at hwrite
    rw [hd', hd₆, hd₅]
    exact .updateItem hid hmerge hitem hunique hwrite

theorem Catalogue.deed_of_delete {id : Value} {u : Unit} (h : delete id d = .ok u d') :
    Deed m d.store (.deleteItem id) .done d'.store := by
  obtain ⟨k, hid, h⟩ := after_eq_ok.1 h
  obtain ⟨d₁, h, hd'⟩ := reported_eq_ok h
  obtain ⟨s, hs, hkept⟩ := run_eq_ok h
  obtain ⟨-, -, rfl⟩ := Except.map_eq_ok.1 hs
  rw [hd', hkept.store]
  exact .deleteItem hid

theorem Catalogue.read_eq_ok {id : Value} {item : Item} (h : read id d = .ok item d') :
    ∃ k, Input.identifier id "id" = .ok k ∧ d.store.item? k = some item ∧
      d'.store = d.store := by
  obtain ⟨k, hid, h⟩ := after_eq_ok.1 h
  obtain ⟨d₁, h, hd'⟩ := reported_eq_ok h
  obtain ⟨d₂, hd₂, h⟩ := after_storeFor_eq_ok h
  cases hitem : d.store.item? k with
  | none =>
    rw [hitem] at h
    exact (fail_eq_ok.1 h).elim
  | some i =>
    rw [hitem] at h
    obtain ⟨rfl, rfl⟩ := pure_eq_ok.1 h
    exact ⟨k, hid, hitem, hd'.trans hd₂⟩

theorem Catalogue.list_eq_ok {items : List Item} (h : list d = .ok items d') :
    items = d.store.sortedItems ∧ d'.store = d.store := by
  obtain ⟨d₁, h, hd'⟩ := reported_eq_ok h
  obtain ⟨d₂, hd₂, h⟩ := after_store_eq_ok h
  obtain ⟨rfl, rfl⟩ := pure_eq_ok.1 h
  exact ⟨rfl, hd'.trans hd₂⟩

theorem Catalogue.possessions_eq_ok {operation : String} {equippedOnly : Bool} {userId : Value}
    {held : List Possession} (h : possessions operation equippedOnly userId d = .ok held d') :
    ∃ u, Input.identifier userId "user_id" = .ok u ∧ (d.store.user? u).isSome ∧
      held = (if equippedOnly then (d.store.possessionsOf u).filter (·.equipped)
        else d.store.possessionsOf u) ∧ d'.store = d.store := by
  obtain ⟨u, huserId, h⟩ := after_eq_ok.1 h
  obtain ⟨d₁, h, hd'⟩ := reported_eq_ok h
  obtain ⟨d₂, hd₂, h⟩ := after_storeFor_eq_ok h
  obtain ⟨huser, h⟩ := guard_eq_ok.1 h
  obtain ⟨rfl, rfl⟩ := pure_eq_ok.1 h
  exact ⟨u, huserId, Option.isSome_iff_ne_none.2 fun h => huser (h ▸ rfl), rfl, hd'.trans hd₂⟩

/-! ### Statistics and news -/

theorem Scoreboard.read_eq_ok {username : Value} {s : Score} (h : read username d = .ok s d') :
    ∃ name row, readName username = .ok name ∧ singleRow d.store name = .ok row ∧
      s = score name row ∧ d'.store = d.store := by
  obtain ⟨name, hname, h⟩ := after_eq_ok.1 h
  obtain ⟨d₁, h, hd'⟩ := reported_eq_ok h
  obtain ⟨d₂, hd₂, h⟩ := after_storeFor_eq_ok h
  obtain ⟨row, hrow, h⟩ := after_eq_ok.1 h
  obtain ⟨rfl, rfl⟩ := pure_eq_ok.1 h
  exact ⟨name, row, hname, hrow, rfl, hd'.trans hd₂⟩

theorem Scoreboard.deed_of_add {username : Value} {deltas : Deltas} {s : Score}
    (h : add m username deltas d = .ok s d') :
    Deed m d.store (.addStats username deltas) (.score s) d'.store := by
  obtain ⟨name, hname, h⟩ := after_eq_ok.1 h
  obtain ⟨k, hkills, h⟩ := after_eq_ok.1 h
  obtain ⟨g, hgames, h⟩ := after_eq_ok.1 h
  obtain ⟨t, htop5, h⟩ := after_eq_ok.1 h
  obtain ⟨w, hwins, h⟩ := after_eq_ok.1 h
  obtain ⟨d₁, h, hd'⟩ := reported_eq_ok h
  obtain ⟨d₂, hd₂, h⟩ := after_storeFor_eq_ok h
  obtain ⟨row, hrow, h⟩ := after_eq_ok.1 h
  obtain ⟨kills, hnewKills, h⟩ := after_eq_ok.1 h
  obtain ⟨games, hnewGames, h⟩ := after_eq_ok.1 h
  obtain ⟨top5, hnewTop5, h⟩ := after_eq_ok.1 h
  obtain ⟨wins, hnewWins, h⟩ := after_eq_ok.1 h
  obtain ⟨d₃, hwrite, h⟩ := after_run_eq_ok h
  obtain ⟨d₄, hd₄, h⟩ := after_flush_eq_ok h
  obtain ⟨rfl, rfl⟩ := pure_eq_ok.1 h
  rw [hd₂] at hwrite
  rw [hd', hd₄]
  exact .addStats hname hkills hgames htop5 hwins hrow ⟨rfl, rfl⟩ hnewKills hnewGames hnewTop5
    hnewWins hwrite

theorem Bulletin.deed_of_create {title description imageLink : Value} {n : News}
    (h : create m title description imageLink d = .ok n d') :
    Deed m d.store (.createNews title description imageLink) (.news n) d'.store := by
  obtain ⟨t, htitle, h⟩ := after_eq_ok.1 h
  obtain ⟨text, hdescription, h⟩ := after_eq_ok.1 h
  obtain ⟨link, hlink, h⟩ := after_eq_ok.1 h
  obtain ⟨d₁, h, hd'⟩ := reported_eq_ok h
  obtain ⟨d₂, hd₂, h⟩ := after_store_eq_ok h
  obtain ⟨_, hfree, h⟩ := after_eq_ok.1 h
  obtain ⟨id, d₃, hd₃, h⟩ := after_takeRowId_eq_ok h
  obtain ⟨_, -, h⟩ := after_eq_ok.1 h
  obtain ⟨_, -, h⟩ := after_eq_ok.1 h
  obtain ⟨d₄, hinsert, h⟩ := after_run_eq_ok h
  obtain ⟨d₅, hd₅, h⟩ := after_flush_eq_ok h
  obtain ⟨rfl, rfl⟩ := pure_eq_ok.1 h
  rw [hd₃, hd₂] at hinsert
  rw [hd', hd₅]
  exact .createNews htitle hdescription hlink hfree ⟨rfl, rfl, rfl⟩ hinsert

theorem Bulletin.read_eq_ok {id : Value} {n : News} (h : read id d = .ok n d') :
    ∃ k, Input.identifier id "id" = .ok k ∧ d.store.news? k = some n ∧ d'.store = d.store := by
  obtain ⟨k, hid, h⟩ := after_eq_ok.1 h
  obtain ⟨d₁, h, hd'⟩ := reported_eq_ok h
  obtain ⟨d₂, hd₂, h⟩ := after_storeFor_eq_ok h
  cases hnews : d.store.news? k with
  | none =>
    rw [hnews] at h
    exact (fail_eq_ok.1 h).elim
  | some m =>
    rw [hnews] at h
    obtain ⟨rfl, rfl⟩ := pure_eq_ok.1 h
    exact ⟨k, hid, hnews, hd'.trans hd₂⟩

theorem Bulletin.list_eq_ok {ns : List News} (h : list d = .ok ns d') :
    ns = d.store.sortedNews ∧ d'.store = d.store := by
  obtain ⟨d₁, h, hd'⟩ := reported_eq_ok h
  obtain ⟨d₂, hd₂, h⟩ := after_store_eq_ok h
  obtain ⟨rfl, rfl⟩ := pure_eq_ok.1 h
  exact ⟨rfl, hd'.trans hd₂⟩

theorem Bulletin.deed_of_update {id title description imageLink : Value} {n : News}
    (h : update m id title description imageLink d = .ok n d') :
    Deed m d.store (.updateNews id title description imageLink) (.news n) d'.store := by
  obtain ⟨k, hid, h⟩ := after_eq_ok.1 h
  obtain ⟨newTitle, htitle, h⟩ := after_eq_ok.1 h
  obtain ⟨text, hdescription, h⟩ := after_eq_ok.1 h
  obtain ⟨link, hlink, h⟩ := after_eq_ok.1 h
  obtain ⟨d₁, h, hd'⟩ := reported_eq_ok h
  obtain ⟨d₂, hd₂, h⟩ := after_storeFor_eq_ok h
  cases hnews : d.store.news? k with
  | none =>
    rw [hnews] at h
    exact (fail_eq_ok.1 h).elim
  | some news =>
    rw [hnews] at h
    -- A title that is given is compared with the others, which takes one more look
    -- at the store; after that the two ways are the same.
    have key : ∃ d₃, d₃.store = d.store ∧
        (∀ t ∈ newTitle, ensureFree (d.store.news.filter (·.id != k)) title t = .ok ()) ∧
        (liftM (checkBytes description) >>= fun _ => liftM (checkBytes imageLink) >>= fun _ =>
          run (·.writeNews { news with
            title := newTitle.getD news.title, description := text.getD news.description,
            imageLink := link.getD news.imageLink }) >>= fun _ => flush m .news >>= fun _ =>
            pure { news with
              title := newTitle.getD news.title, description := text.getD news.description,
              imageLink := link.getD news.imageLink }) d₃ = .ok n d₁ := by
      cases newTitle with
      | none => exact ⟨d₂, hd₂, fun _ => nofun, h⟩
      | some t =>
        obtain ⟨d₃, hd₃, h⟩ := after_store_eq_ok h
        obtain ⟨_, hfree, h⟩ := after_eq_ok.1 h
        rw [hd₂] at hfree
        exact ⟨d₃, hd₃.trans hd₂, fun t' ht' => (Option.mem_some_iff.1 ht') ▸ hfree, h⟩
    obtain ⟨d₃, hd₃, hfree, h⟩ := key
    obtain ⟨_, -, h⟩ := after_eq_ok.1 h
    obtain ⟨_, -, h⟩ := after_eq_ok.1 h
    obtain ⟨d₄, hwrite, h⟩ := after_run_eq_ok h
    obtain ⟨d₅, hd₅, h⟩ := after_flush_eq_ok h
    obtain ⟨rfl, rfl⟩ := pure_eq_ok.1 h
    rw [hd₃] at hwrite
    rw [hd', hd₅]
    exact .updateNews hid htitle hdescription hlink hnews hfree hwrite

/-! ### The service -/

/-- An answer that is made of the result of some work. -/
theorem Session.answer_eq_ok {α : Type} {x : Session α} {f : α → Answer} {answer : Answer}
    (h : (do return f (← x)) d = .ok answer d') : ∃ a, x d = .ok a d' ∧ answer = f a := by
  obtain ⟨a, d₁, hx, h⟩ := bind_eq_ok.1 h
  obtain ⟨rfl, rfl⟩ := pure_eq_ok.1 h
  exact ⟨a, hx, rfl⟩

/-- **What a call does when it gives an answer is one of the deeds.** -/
theorem Service.deed_of_perform {service : Service} {call : Call} {answer : Answer}
    (h : service.perform m call d = .ok answer d') : Deed m d.store call answer d'.store := by
  cases call with
  | register name email password =>
    obtain ⟨p, hdone, rfl⟩ := answer_eq_ok h
    exact Registry.deed_of_register hdone
  | readUser key =>
    obtain ⟨p, hdone, rfl⟩ := answer_eq_ok h
    obtain ⟨_, _, _, _, _, hd'⟩ := Registry.read_eq_ok hdone
    exact .of_looks rfl hd'
  | updateUser =>
    obtain ⟨_, hdone, rfl⟩ := answer_eq_ok h
    exact (fail_eq_ok.1 hdone).elim
  | deleteUser id =>
    obtain ⟨_, hdone, rfl⟩ := answer_eq_ok h
    exact Registry.deed_of_delete hdone
  | listUsers =>
    obtain ⟨_, hdone, rfl⟩ := answer_eq_ok h
    exact (fail_eq_ok.1 hdone).elim
  | login key password =>
    obtain ⟨l, hdone, rfl⟩ := answer_eq_ok h
    -- A login takes an id for its token, but no statement of it changes the store.
    obtain ⟨_, _, d₁, _, _, _, hd₁, h⟩ := Registry.login_eq_ok hdone
    obtain ⟨issued, h, -⟩ := Registry.issueFor_eq_ok h
    obtain ⟨_, _, _, _, hd'⟩ := Registry.issue_eq_ok h
    exact .of_looks rfl (hd'.trans hd₁)
  | version =>
    obtain ⟨rfl, rfl⟩ := pure_eq_ok.1 h
    exact .look rfl
  | grant key coins gems =>
    obtain ⟨b, hdone, rfl⟩ := answer_eq_ok h
    exact Treasury.deed_of_grant hdone
  | createItem draft =>
    obtain ⟨item, hdone, rfl⟩ := answer_eq_ok h
    exact Catalogue.deed_of_create hdone
  | readItem id =>
    obtain ⟨item, hdone, rfl⟩ := answer_eq_ok h
    obtain ⟨_, _, _, hd'⟩ := Catalogue.read_eq_ok hdone
    exact .of_looks rfl hd'
  | listItems =>
    obtain ⟨items, hdone, rfl⟩ := answer_eq_ok h
    exact .of_looks rfl (Catalogue.list_eq_ok hdone).2
  | updateItem id change =>
    obtain ⟨item, hdone, rfl⟩ := answer_eq_ok h
    exact Catalogue.deed_of_update hdone
  | deleteItem id =>
    obtain ⟨_, hdone, rfl⟩ := answer_eq_ok h
    exact Catalogue.deed_of_delete hdone
  | userItems userId =>
    obtain ⟨held, hdone, rfl⟩ := answer_eq_ok h
    obtain ⟨_, _, _, _, hd'⟩ := Catalogue.possessions_eq_ok hdone
    exact .of_looks rfl hd'
  | equippedItems userId =>
    obtain ⟨held, hdone, rfl⟩ := answer_eq_ok h
    obtain ⟨_, _, _, _, hd'⟩ := Catalogue.possessions_eq_ok hdone
    exact .of_looks rfl hd'
  | buy userId itemId =>
    obtain ⟨_, hdone, rfl⟩ := answer_eq_ok h
    exact Market.deed_of_buy hdone
  | throwAway userId itemId =>
    obtain ⟨_, hdone, rfl⟩ := answer_eq_ok h
    exact Market.deed_of_throwAway hdone
  | equip userId itemId =>
    obtain ⟨f, hdone, rfl⟩ := answer_eq_ok h
    exact Wardrobe.deed_of_equip hdone
  | readStats username =>
    obtain ⟨s, hdone, rfl⟩ := answer_eq_ok h
    obtain ⟨_, _, _, _, _, hd'⟩ := Scoreboard.read_eq_ok hdone
    exact .of_looks rfl hd'
  | addStats username deltas =>
    obtain ⟨s, hdone, rfl⟩ := answer_eq_ok h
    exact Scoreboard.deed_of_add hdone
  | createNews title description imageLink =>
    obtain ⟨n, hdone, rfl⟩ := answer_eq_ok h
    exact Bulletin.deed_of_create hdone
  | readNews id =>
    obtain ⟨n, hdone, rfl⟩ := answer_eq_ok h
    obtain ⟨_, _, _, hd'⟩ := Bulletin.read_eq_ok hdone
    exact .of_looks rfl hd'
  | listNews =>
    obtain ⟨ns, hdone, rfl⟩ := answer_eq_ok h
    exact .of_looks rfl (Bulletin.list_eq_ok hdone).2
  | updateNews id title description imageLink =>
    obtain ⟨n, hdone, rfl⟩ := answer_eq_ok h
    exact Bulletin.deed_of_update hdone

end Guildhall
