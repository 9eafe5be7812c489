/-
Guildhall/Store.lean

The five tables of the service and how rows are found in them: users with
their balances, the items of the market, who possesses which item, match
statistics and news.  A store is a plain value; the rows of a table are in
the order in which they were added, which no answer shows.
-/
import Guildhall.Calendar

namespace Guildhall

/-! ### Rows -/

/-- A user, with balances of both currencies. -/
structure User where
  id : String
  name : String
  email : String
  /-- The digest of the password. -/
  password : String
  isAdmin : Bool := false
  coins : Int := 0
  gems : Int := 0
  createdAt : Instant
  updatedAt : Instant
  deriving DecidableEq, Repr

/-- An amount of each currency. -/
structure Price (α : Type) where
  coins : α
  gems : α
  deriving DecidableEq, Repr

/-- The price that counts: the sale price if there is a sale. -/
def Price.active {α : Type} (onSale : Bool) (sale base : Price α) : Price α :=
  if onSale then sale else base

/-- An item of the market. -/
structure Item where
  id : String
  name : String
  description : String := ""
  /-- Where the item is worn: of the items of one slot a user wears one. -/
  slot : Int
  imageId : String
  base : Price Int := ⟨0, 0⟩
  onSale : Bool := false
  sale : Price Int := ⟨0, 0⟩
  createdAt : Instant
  updatedAt : Instant
  deriving DecidableEq, Repr

/-- What an item costs right now. -/
def Item.price (i : Item) : Price Int := Price.active i.onSale i.sale i.base

/-- That a user has an item, and whether it is worn. -/
structure Possession where
  userId : String
  itemId : String
  equipped : Bool := false
  deriving DecidableEq, Repr

/-- The match statistics of a user. -/
structure Stats where
  id : String
  userId : String
  wins : Int := 0
  top5 : Int := 0
  kills : Int := 0
  games : Int := 0
  deriving DecidableEq, Repr

/-- An announcement. -/
structure News where
  id : String
  title : String
  description : String := ""
  imageLink : String := ""
  createdAt : Instant
  deriving DecidableEq, Repr

/-- The five tables. -/
structure Store where
  users : List User := []
  items : List Item := []
  possessions : List Possession := []
  stats : List Stats := []
  news : List News := []
  deriving DecidableEq, Repr

/-! ### Finding rows -/

namespace Store

/-- The user of an id. -/
def user? (s : Store) (id : String) : Option User := s.users.find? (·.id == id)

/-- The user whom a key means: by id, else by name, else by email address. -/
def userByKey? (s : Store) (key : String) : Option User :=
  s.users.find? (·.id == key) <|> s.users.find? (·.name == key) <|> s.users.find? (·.email == key)

/-- The item of an id. -/
def item? (s : Store) (id : String) : Option Item := s.items.find? (·.id == id)

/-- The possession of an item by a user. -/
def possession? (s : Store) (userId itemId : String) : Option Possession :=
  s.possessions.find? fun p => p.userId == userId && p.itemId == itemId

/-- The announcement of an id. -/
def news? (s : Store) (id : String) : Option News := s.news.find? (·.id == id)

/-- What a user possesses, by item id. -/
def possessionsOf (s : Store) (userId : String) : List Possession :=
  (s.possessions.filter (·.userId == userId)).mergeSort fun p q => p.itemId ≤ q.itemId

/-- What a user possesses of the items of a slot, by item id. -/
def possessionsIn (s : Store) (userId : String) (slot : Int) : List Possession :=
  (s.possessionsOf userId).filter fun p => (s.item? p.itemId).any (·.slot == slot)

/-- The statistics of the users of a name. -/
def statsOf (s : Store) (name : String) : List Stats :=
  s.stats.filter fun row => (s.user? row.userId).any (·.name == name)

/-- The items by name, then by slot. -/
def sortedItems (s : Store) : List Item :=
  s.items.mergeSort fun i j => i.name < j.name || (i.name == j.name && i.slot ≤ j.slot)

/-- The announcements, the newest first; those of one instant by title. -/
def sortedNews (s : Store) : List News :=
  s.news.mergeSort fun m n =>
    n.createdAt < m.createdAt || (m.createdAt == n.createdAt && m.title ≤ n.title)

end Store

end Guildhall
