/-
Guildhall/Wardrobe.lean

Which item a user wears in each slot.  Putting an item on takes off what
was worn in its slot, in the same transaction; putting on what is already
worn changes nothing.
-/
import Guildhall.Market

namespace Guildhall.Wardrobe

open Session

/-- The answer to putting an item on. -/
structure Fitting where
  userId : String
  itemId : String
  /-- What was worn in the slot before. -/
  previousItemId : Option String
  changed : Bool
  deriving DecidableEq, Repr

/-- A store in which a user takes off what is worn of some possessions and puts
on one of them. -/
def wear (s : Store) (slot : List Possession) (target : Possession) : Store :=
  ((slot.filter (·.equipped)).foldl
    (fun s p => s.writePossession { p with equipped := false }) s).writePossession
      { target with equipped := true }

/-- Puts an item on. -/
def equip (m : Moment) (givenUser givenItem : Value) : Session Fitting := do
  let userId ← Input.identifier givenUser "user_id"
  let itemId ← Input.identifier givenItem "item_id"
  reportingAs (Market.storageProblem "equip_by_user" "Could not equip item" userId itemId) <|
    transaction do
      let some item := (← storeFor givenItem).item? itemId | fail (.notFound "Item" (.text itemId))
      let slot := (← storeFor givenUser).possessionsIn userId item.slot
      let some target := slot.find? (·.itemId == itemId)
        | fail (.notFound "Possession" (Market.pairName userId itemId))
      let previousItemId := (slot.find? (·.equipped)).map (·.itemId)
      if target.equipped then return { userId, itemId, previousItemId, changed := false }
      run fun s => .ok (wear s slot target)
      flush m .possessions
      return { userId, itemId, previousItemId, changed := true }

end Guildhall.Wardrobe
