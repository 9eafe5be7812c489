/-
Guildhall/Proofs/Deed.lean

What a call does to the store when it gives an answer.  There are fourteen
kinds of deeds, one constructor of `Deed` each: a call may only look, or it
may carry out the statements of its operation, with the arguments that
have passed their checks and the rows that were found.  What holds of every
deed holds of every call, so an invariant is a case analysis over `Deed`.
-/
import Guildhall.Service

namespace Guildhall

/-- Whether a call does no more than look at the store. -/
def Call.looks : Call → Bool
  | .readUser _ | .login .. | .version | .readItem _ | .listItems | .userItems _
  | .equippedItems _ | .readStats _ | .readNews _ | .listNews => true
  | _ => false

/-- The user of a registration. -/
def Registry.newcomer (now : Instant) (id name email password : String) : User :=
  { id, name, email, password := hashPassword password, createdAt := now, updatedAt := now }

/-- What a call at a moment does to a store `s` when it gives an answer. -/
inductive Deed (m : Moment) (s : Store) : Call → Answer → Store → Prop
  /-- The call only looks. -/
  | look {call : Call} {answer : Answer} (hlooks : call.looks = true) : Deed m s call answer s
  /-- A user is added, with empty balances, and empty statistics are. -/
  | register {name email password : Value} {n e p id statsId : String} {s₁ s₂ : Store}
      (hname : Input.text name "name" (some Input.nameLimit) = .ok n)
      (hemail : Input.email email "email" = .ok e)
      (hpassword : Input.text password "password" none = .ok p)
      (hfree : Registry.ensureFree s name email n e = .ok ())
      (hbytes : checkBytes password = .ok ())
      (huser : s.insertUser (Registry.newcomer m.now id n e p) = .ok s₁)
      (hstats : s₁.insertStats { id := statsId, userId := id } = .ok s₂) :
      Deed m s (.register name email password)
        (.profile (Registry.profile (Registry.newcomer m.now id n e p))) s₂
  /-- A user is removed with everything of theirs. -/
  | deleteUser {id : Value} {k : String} (hid : Input.identifier id "id" = .ok k) :
      Deed m s (.deleteUser id) .done (s.deleteUser k)
  /-- Amounts are added to the balances of the user whom the key means. -/
  | grant {key addCoins addGems : Value} {k : String} {c g coins gems : Int} {user : User}
      {s₁ : Store}
      (hkey : Input.identifier key "id" = .ok k)
      (hcoins : Input.amount addCoins "add_coins" = .ok c)
      (hgems : Input.amount addGems "add_gems" = .ok g)
      (huser : s.userByKey? k = some user)
      (hnewCoins : Input.total user.coins c "add_coins" = .ok coins)
      (hnewGems : Input.total user.gems g "add_gems" = .ok gems)
      (hwrite : s.writeUser m.now { user with coins, gems } = .ok s₁) :
      Deed m s (.grant key addCoins addGems) (.balance { userId := user.id, coins, gems }) s₁
  /-- An item is added. -/
  | createItem {draft : Catalogue.Draft} {item : Item} {description : Option String} {s₁ : Store}
      (hname : Input.text draft.name "name" (some Catalogue.nameLimit) = .ok item.name)
      (hslot : Input.integer draft.slot "type" (some 0) none = .ok item.slot)
      (himage : Input.text draft.imageId "image_id" (some Catalogue.imageLimit) = .ok item.imageId)
      (hdescription : Input.optionalText draft.description "description" none = .ok description)
      (hcoins : Input.amount draft.coins "coins_price" = .ok item.base.coins)
      (hgems : Input.amount draft.gems "gems_price" = .ok item.base.gems)
      (hsaleCoins : Input.amount draft.saleCoins "sale_coins_price" = .ok item.sale.coins)
      (hsaleGems : Input.amount draft.saleGems "sale_gems_price" = .ok item.sale.gems)
      (hunique : Catalogue.ensureUnique s.items draft.name draft.imageId item.name item.slot
        item.imageId = .ok ())
      (hrest : item.description = description.getD "" ∧ item.onSale = draft.onSale.holds ∧
        item.createdAt = m.now ∧ item.updatedAt = m.now)
      (hinsert : s.insertItem item = .ok s₁) :
      Deed m s (.createItem draft) (.item item) s₁
  /-- A change is merged into an item. -/
  | updateItem {id : Value} {change : Catalogue.Change} {k : String} {merge : Catalogue.Merge}
      {item : Item} {s₁ : Store}
      (hid : Input.identifier id "id" = .ok k)
      (hmerge : change.check = .ok merge)
      (hitem : s.item? k = some item)
      (hunique : Catalogue.ensureUnique (s.items.filter (·.id != k)) change.name change.imageId
        (merge.apply item).name (merge.apply item).slot (merge.apply item).imageId = .ok ())
      (hwrite : s.writeItem m.now (merge.apply item) = .ok s₁) :
      Deed m s (.updateItem id change) (.item ((s₁.item? k).getD (merge.apply item))) s₁
  /-- An item is removed with every possession of it. -/
  | deleteItem {id : Value} {k : String} (hid : Input.identifier id "id" = .ok k) :
      Deed m s (.deleteItem id) .done (s.deleteItem k)
  /-- A user pays for an item and has it from then on. -/
  | buy {userId itemId : Value} {u i : String} {user : User} {item : Item} {s₁ s₂ : Store}
      (huserId : Input.identifier userId "user_id" = .ok u)
      (hitemId : Input.identifier itemId "item_id" = .ok i)
      (huser : s.user? u = some user) (hitem : s.item? i = some item)
      (hgems : item.price.gems ≤ user.gems) (hcoins : item.price.coins ≤ user.coins)
      (hwrite : s.writeUser m.now { user with
        coins := user.coins - item.price.coins, gems := user.gems - item.price.gems } = .ok s₁)
      (hnew : s₁.possession? u i = none)
      (hinsert : s₁.insertPossession { userId := u, itemId := i } = .ok s₂) :
      Deed m s (.buy userId itemId) .done s₂
  /-- A user pays again for an item that the user has. -/
  | buyAgain {userId itemId : Value} {u i : String} {user : User} {item : Item} {s₁ : Store}
      (huserId : Input.identifier userId "user_id" = .ok u)
      (hitemId : Input.identifier itemId "item_id" = .ok i)
      (huser : s.user? u = some user) (hitem : s.item? i = some item)
      (hgems : item.price.gems ≤ user.gems) (hcoins : item.price.coins ≤ user.coins)
      (hwrite : s.writeUser m.now { user with
        coins := user.coins - item.price.coins, gems := user.gems - item.price.gems } = .ok s₁)
      (hheld : (s₁.possession? u i).isSome) :
      Deed m s (.buy userId itemId) .done s₁
  /-- A user gives an item back for its base price. -/
  | throwAway {userId itemId : Value} {u i : String} {user : User} {item : Item} {s₁ : Store}
      (huserId : Input.identifier userId "user_id" = .ok u)
      (hitemId : Input.identifier itemId "item_id" = .ok i)
      (huser : s.user? u = some user) (hitem : s.item? i = some item)
      (hheld : (s.possession? u i).isSome)
      (hwrite : s.writeUser m.now { user with
        coins := user.coins + item.base.coins, gems := user.gems + item.base.gems } = .ok s₁) :
      Deed m s (.throwAway userId itemId) .done (s₁.deletePossession u i)
  /-- A user puts an item on and takes off what was worn in its slot; nothing
  happens if the user wears it already. -/
  | equip {userId itemId : Value} {u i : String} {item : Item} {target : Possession}
      (huserId : Input.identifier userId "user_id" = .ok u)
      (hitemId : Input.identifier itemId "item_id" = .ok i)
      (hitem : s.item? i = some item)
      (htarget : (s.possessionsIn u item.slot).find? (·.itemId == i) = some target) :
      Deed m s (.equip userId itemId)
        (.fitting { userId := u, itemId := i,
                    previousItemId := ((s.possessionsIn u item.slot).find? (·.equipped)).map
                      (·.itemId),
                    changed := !target.equipped })
        (if target.equipped then s else Wardrobe.wear s (s.possessionsIn u item.slot) target)
  /-- Amounts are added to the counters of the user of a name. -/
  | addStats {username : Value} {deltas : Scoreboard.Deltas} {name : String}
      {k g t w : Int} {row new : Stats} {s₁ : Store}
      (hname : Scoreboard.readName username = .ok name)
      (hkills : Input.amount deltas.kills "add_kills" = .ok k)
      (hgames : Input.amount deltas.games "add_games" = .ok g)
      (htop5 : Input.amount deltas.top5 "add_top5" = .ok t)
      (hwins : Input.amount deltas.wins "add_wins" = .ok w)
      (hrow : Scoreboard.singleRow s name = .ok row)
      (hid : new.id = row.id ∧ new.userId = row.userId)
      (hnewKills : Input.total row.kills k "add_kills" = .ok new.kills)
      (hnewGames : Input.total row.games g "add_games" = .ok new.games)
      (hnewTop5 : Input.total row.top5 t "add_top5" = .ok new.top5)
      (hnewWins : Input.total row.wins w "add_wins" = .ok new.wins)
      (hwrite : s.writeStats new = .ok s₁) :
      Deed m s (.addStats username deltas) (.score (Scoreboard.score name new)) s₁
  /-- An announcement is added. -/
  | createNews {title description imageLink : Value} {news : News}
      {text link : Option String} {s₁ : Store}
      (htitle : Input.text title "title" (some Input.titleLimit) = .ok news.title)
      (hdescription : Input.optionalText description "description" none = .ok text)
      (hlink : Input.optionalText imageLink "image_link" (some Bulletin.linkLimit) = .ok link)
      (hfree : Bulletin.ensureFree s.news title news.title = .ok ())
      (hrest : news.description = text.getD "" ∧ news.imageLink = link.getD "" ∧
        news.createdAt = m.now)
      (hinsert : s.insertNews news = .ok s₁) :
      Deed m s (.createNews title description imageLink) (.news news) s₁
  /-- A change is merged into an announcement. -/
  | updateNews {id title description imageLink : Value} {k : String}
      {newTitle text link : Option String} {news : News} {s₁ : Store}
      (hid : Input.identifier id "id" = .ok k)
      (htitle : Input.optionalText title "title" (some Input.titleLimit) = .ok newTitle)
      (hdescription : Input.optionalText description "description" none = .ok text)
      (hlink : Input.optionalText imageLink "image_link" (some Bulletin.linkLimit) = .ok link)
      (hnews : s.news? k = some news)
      (hfree : ∀ t ∈ newTitle, Bulletin.ensureFree (s.news.filter (·.id != k)) title t = .ok ())
      (hwrite : s.writeNews { news with
        title := newTitle.getD news.title, description := text.getD news.description,
        imageLink := link.getD news.imageLink } = .ok s₁) :
      Deed m s (.updateNews id title description imageLink)
        (.news { news with
          title := newTitle.getD news.title, description := text.getD news.description,
          imageLink := link.getD news.imageLink }) s₁

/-- Only looking leaves the store as it was. -/
theorem Deed.of_looks {m : Moment} {call : Call} {answer : Answer} {s s' : Store}
    (hlooks : call.looks = true) (hs : s' = s) : Deed m s call answer s' := hs ▸ .look hlooks

/-- A deed that only looks leaves the store as it was. -/
theorem Deed.eq_of_looks {m : Moment} {s s' : Store} {call : Call} {answer : Answer}
    (h : Deed m s call answer s') (hlooks : call.looks = true) : s' = s := by
  cases h <;> first | rfl | cases hlooks

end Guildhall
