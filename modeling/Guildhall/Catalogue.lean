/-
Guildhall/Catalogue.lean

The items of the market.  Name and slot together occur once, and so does
an image.  An update merges what is given into the item: blank texts and
zero numbers count as not given, and a sale price that is not zero puts
the item on sale.  Removing an item removes every possession of it.
-/
import Guildhall.Input
import Guildhall.Store.Session

namespace Guildhall.Catalogue

open Session

/-! ### Limits -/

/-- The length of an item's name. -/
def nameLimit : Int := 128

/-- The length of the name of an image. -/
def imageLimit : Int := 128

/-! ### Creation -/

/-- What an item is created from. -/
structure Draft where
  name : Value
  slot : Value
  imageId : Value
  description : Value := .text ""
  coins : Value := .int 0
  gems : Value := .int 0
  onSale : Value := .bool false
  saleCoins : Value := .int 0
  saleGems : Value := .int 0

/-- Stops if another item has the name and the slot, or the image.  The pair is
looked at first; `others` are the items that count as other ones.  Name and
image are also `given` as they came in. -/
def ensureUnique (others : List Item) (givenName givenImage : Value) (name : String) (slot : Int)
    (imageId : String) : Except Stop Unit := do
  checkBytes givenName
  checkFits [slot]
  if others.any fun i => i.name == name && i.slot == slot then
    fail (.alreadyExists .itemNameAndType)
  checkBytes givenImage
  if others.any (·.imageId == imageId) then fail (.alreadyExists .itemImage)

/-- Adds an item. -/
def create (m : Moment) (draft : Draft) : Session Item := do
  let name ← Input.text draft.name "name" (some nameLimit)
  let slot ← Input.integer draft.slot "type" (some 0) none
  let imageId ← Input.text draft.imageId "image_id" (some imageLimit)
  let description ← Input.optionalText draft.description "description" none
  let coins ← Input.amount draft.coins "coins_price"
  let gems ← Input.amount draft.gems "gems_price"
  let saleCoins ← Input.amount draft.saleCoins "sale_coins_price"
  let saleGems ← Input.amount draft.saleGems "sale_gems_price"
  reporting (.alreadyExists .item)
      (storageFailure "create_item" "Could not create new item" [("item_name", .text name)]) <|
    transaction do
      ensureUnique (← store).items draft.name draft.imageId name slot imageId
      let id ← takeRowId
      let item : Item :=
        { id, name, description := description.getD "", slot, imageId, base := ⟨coins, gems⟩,
          onSale := draft.onSale.holds, sale := ⟨saleCoins, saleGems⟩, createdAt := m.now,
          updatedAt := m.now }
      checkBytes draft.description
      run (·.insertItem item)
      flush m .items
      return item

/-! ### Reading -/

/-- The item of an id. -/
def read (given : Value) : Session Item := do
  let id ← Input.identifier given "id"
  reportingAs (storageFailure "read_item" "Could not read item" [("item_id", .text id)]) <|
    transaction do
      match (← storeFor given).item? id with
      | some item => return item
      | none => fail (.notFound "Item" (.text id))

/-- Every item, by name and slot. -/
def list : Session (List Item) :=
  reportingAs (storageFailure "list_items" "Could not list items" []) <|
    transaction do return (← store).sortedItems

/-! ### Changes -/

/-- What an item is changed by; null for what is not given. -/
structure Change where
  name : Value := .null
  slot : Value := .null
  imageId : Value := .null
  description : Value := .null
  coins : Value := .null
  gems : Value := .null
  saleCoins : Value := .null
  saleGems : Value := .null

/-- A checked change; zero for numbers that are not given. -/
structure Merge where
  name : Option String
  slot : Int
  imageId : Option String
  description : Option String
  coins : Int
  gems : Int
  saleCoins : Int
  saleGems : Int

/-- A number that may be left out; zero if it is. -/
def optionalNumber (v : Value) (check : Value → Except Stop Int) : Except Stop Int :=
  match v with
  | .null => .ok 0
  | v => check v

/-- Checks a change. -/
def Change.check (c : Change) : Except Stop Merge := do
  let name ← Input.optionalText c.name "name" (some nameLimit)
  let imageId ← Input.optionalText c.imageId "image_id" (some imageLimit)
  let description ← Input.optionalText c.description "description" none
  let slot ← optionalNumber c.slot fun v => Input.integer v "type" (some 0) none
  let coins ← optionalNumber c.coins fun v => Input.amount v "coins_price"
  let gems ← optionalNumber c.gems fun v => Input.amount v "gems_price"
  let saleCoins ← optionalNumber c.saleCoins fun v => Input.amount v "sale_coins_price"
  let saleGems ← optionalNumber c.saleGems fun v => Input.amount v "sale_gems_price"
  return { name, slot, imageId, description, coins, gems, saleCoins, saleGems }

/-- A number, or the one before if it is zero. -/
def orNumber (n before : Int) : Int := if n = 0 then before else n

/-- An item with a change merged into it. -/
def Merge.apply (c : Merge) (i : Item) : Item :=
  let onSale := c.saleCoins ≠ 0 || c.saleGems ≠ 0
  { i with
    name := c.name.getD i.name
    slot := orNumber c.slot i.slot
    imageId := c.imageId.getD i.imageId
    description := c.description.getD i.description
    base := ⟨orNumber c.coins i.base.coins, orNumber c.gems i.base.gems⟩
    onSale := onSale || i.onSale
    sale := if onSale then ⟨c.saleCoins, c.saleGems⟩ else i.sale }

/-- Merges a change into the item of an id. -/
def update (m : Moment) (given : Value) (change : Change) : Session Item := do
  let id ← Input.identifier given "id"
  let merge ← change.check
  reporting (.alreadyExists .item)
      (storageFailure "update_item" "Could not update item" [("item_id", .text id)]) <|
    transaction do
      let some item := (← storeFor given).item? id | fail (.notFound "Item" (.text id))
      let merged := merge.apply item
      ensureUnique ((← store).items.filter (·.id != id)) change.name change.imageId merged.name
        merged.slot merged.imageId
      checkBytes change.description
      run (·.writeItem m.now merged)
      flush m .items
      return ((← store).item? id).getD merged

/-- Removes the item of an id; it is no failure if there is none. -/
def delete (given : Value) : Session Unit := do
  let id ← Input.identifier given "id"
  reportingAs (storageFailure "delete_item" "Could not delete item" [("item_id", .text id)]) <|
    transaction (run fun s => (checkBytes given).map fun _ => s.deleteItem id)

/-! ### What a user has -/

/-- The possessions of a user, by item id. -/
def possessions (operation : String) (equippedOnly : Bool) (given : Value) :
    Session (List Possession) := do
  let userId ← Input.identifier given "user_id"
  reportingAs (storageFailure operation "Could not fetch user items"
      [("user_id", .text userId)]) <|
    transaction do
      let s ← storeFor given
      if (s.user? userId).isNone then fail (.notFound "User" (.text userId))
      let held := s.possessionsOf userId
      return if equippedOnly then held.filter (·.equipped) else held

/-- All possessions of a user. -/
def userItems (userId : Value) : Session (List Possession) :=
  possessions "get_user_items_ids" false userId

/-- The possessions that a user wears. -/
def equippedItems (userId : Value) : Session (List Possession) :=
  possessions "get_equipped_user_items_ids" true userId

end Guildhall.Catalogue
