/-
Guildhall/Treasury.lean

Grants of currency to a user.  A grant never lowers a balance, and it is
made whole or not at all: if either balance would not fit its column,
neither changes.
-/
import Guildhall.Input
import Guildhall.Store.Session

namespace Guildhall.Treasury

open Session

/-- The balances of a user after a grant. -/
structure Balance where
  userId : String
  coins : Int
  gems : Int
  deriving DecidableEq, Repr

/-- Adds to the balances of the user whom a key means. -/
def grant (m : Moment) (given addCoins addGems : Value) : Session Balance := do
  let key ← Input.identifier given "id"
  let addCoins ← Input.amount addCoins "add_coins"
  let addGems ← Input.amount addGems "add_gems"
  reportingAs (storageFailure "grant_currencies" "Unable to grant currencies"
      [("provided_id", .text key)]) <|
    transaction do
      let some user := (← storeFor given).userByKey? key | fail (.notFound "User" (.text key))
      let coins ← Input.total user.coins addCoins "add_coins"
      let gems ← Input.total user.gems addGems "add_gems"
      run (·.writeUser m.now { user with coins, gems })
      flush m .users
      return { userId := user.id, coins, gems }

end Guildhall.Treasury
