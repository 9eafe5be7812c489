/-
Guildhall/Market.lean

Buying an item and throwing it away.  A purchase costs the active price:
gems are looked at before coins, and nothing is written until both
suffice.  Who buys an item a second time pays again and has it once.
Throwing an item away pays back its base price, whatever was paid.
-/
import Guildhall.Input
import Guildhall.Store.Session

namespace Guildhall.Market

open Session

/-- The message when the storage fails. -/
def operationFailed : String := "Could not proceed with the operation"

/-- The failure of the storage inside an operation on a user and an item. -/
def storageProblem (operation message userId itemId : String) : Failure :=
  storageFailure operation message [("user_id", .text userId), ("item_id", .text itemId)]

/-- How a pair of user and item is named in failures. -/
def pairName (userId itemId : String) : Value := .text (userId ++ "/" ++ itemId)

/-- The user and the item of a pair of ids; the user is looked for first.  Each id is
also `given` as it came in. -/
def findPair (givenUser givenItem : Value) (userId itemId : String) : Session (User × Item) := do
  let some user := (← storeFor givenUser).user? userId | fail (.notFound "User" (.text userId))
  let some item := (← storeFor givenItem).item? itemId | fail (.notFound "Item" (.text itemId))
  return (user, item)

/-- Buys an item for a user. -/
def buy (m : Moment) (givenUser givenItem : Value) : Session Unit := do
  let userId ← Input.identifier givenUser "user_id"
  let itemId ← Input.identifier givenItem "item_id"
  reportingAs (storageProblem "buy_by_user" operationFailed userId itemId) <|
    transaction do
      let (user, item) ← findPair givenUser givenItem userId itemId
      let price := item.price
      if user.gems < price.gems then fail (.insufficient "gems" price.gems user.gems)
      if user.coins < price.coins then fail (.insufficient "coins" price.coins user.coins)
      run (·.writeUser m.now
        { user with coins := user.coins - price.coins, gems := user.gems - price.gems })
      flush m .users
      if ((← store).possession? userId itemId).isNone then
        run (·.insertPossession { userId, itemId })
        flush m .possessions

/-- Takes an item from a user and pays back its base price. -/
def throwAway (m : Moment) (givenUser givenItem : Value) : Session Unit := do
  let userId ← Input.identifier givenUser "user_id"
  let itemId ← Input.identifier givenItem "item_id"
  reportingAs (storageProblem "throw_away_by_user" operationFailed userId itemId) <|
    transaction do
      let (user, item) ← findPair givenUser givenItem userId itemId
      if ((← store).possession? userId itemId).isNone then
        fail (.notFound "Possession" (pairName userId itemId))
      run (·.writeUser m.now
        { user with coins := user.coins + item.base.coins, gems := user.gems + item.base.gems })
      run fun s => .ok (s.deletePossession userId itemId)
      flush m .users

end Guildhall.Market
