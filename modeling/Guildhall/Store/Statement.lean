/-
Guildhall/Store/Statement.lean

The statements that change a store.  Each one checks the constraints of its
table: keys and the columns marked unique occur once, balances are not
negative, rows refer to rows that exist and numbers fit their columns.  A
statement that would break one stops and leaves the store to the caller as
it was.
-/
import Guildhall.Stop
import Guildhall.Store

namespace Guildhall

/-- Whether a column can hold a number. -/
def fits (n : Int) : Bool := leastStored ≤ n && n ≤ greatestStored

/-- Goes on with a number only if a column can hold it. -/
def checkFits (ns : List Int) : Except Stop Unit :=
  if ns.all fits then .ok () else .error .overflow

/-- Goes on with a value as it was given only if it has bytes where it is a text;
half a surrogate pair has none. -/
def checkBytes : Value → Except Stop Unit
  | .torn _ => .error .unencodable
  | _ => .ok ()

/-- Goes on only if a constraint holds. -/
def checkConstraint (holds : Bool) : Except Stop Unit :=
  if holds then .ok () else .error .integrity

namespace Store

/-! ### Users -/

/-- Whether a user differs from the others in id, name and email address. -/
def userIsUnique (others : List User) (u : User) : Bool :=
  !others.any fun v => v.id == u.id || v.name == u.name || v.email == u.email

/-- Whether both balances are not negative. -/
def balancesHold (u : User) : Bool := 0 ≤ u.coins && 0 ≤ u.gems

/-- Adds a user. -/
def insertUser (s : Store) (u : User) : Except Stop Store := do
  checkFits [u.coins, u.gems]
  checkConstraint (userIsUnique s.users u && balancesHold u)
  return { s with users := s.users ++ [u] }

/-- Whether a row refers to a user. -/
def refersToUser (s : Store) (id : String) : Bool :=
  s.possessions.any (·.userId == id) || s.stats.any (·.userId == id)

/-- Puts a user in the place of the one of an id; the id may change if no row
refers to it. -/
def replaceUser (s : Store) (id : String) (u : User) : Except Stop Store := do
  checkFits [u.coins, u.gems]
  checkConstraint (userIsUnique (s.users.filter (·.id != id)) u && balancesHold u &&
    (u.id == id || !s.refersToUser id))
  return { s with users := s.users.map fun v => if v.id == id then u else v }

/-- Changes a user.  The time of the last change moves on only if some other
column changes. -/
def writeUser (s : Store) (now : Instant) (u : User) : Except Stop Store :=
  match s.user? u.id with
  | none => .ok s
  | some old =>
    if { u with updatedAt := old.updatedAt } = old then .ok s
    else s.replaceUser u.id { u with updatedAt := now }

/-- Removes a user, what the user possesses and the user's statistics. -/
def deleteUser (s : Store) (id : String) : Store :=
  { s with
    users := s.users.filter (·.id != id)
    possessions := s.possessions.filter (·.userId != id)
    stats := s.stats.filter (·.userId != id) }

/-! ### Items -/

/-- Whether an item differs from the others in id, in name and slot, and in
image. -/
def itemIsUnique (others : List Item) (i : Item) : Bool :=
  !others.any fun j =>
    j.id == i.id || (j.name == i.name && j.slot == i.slot) || j.imageId == i.imageId

/-- The numbers of an item. -/
def itemNumbers (i : Item) : List Int :=
  [i.slot, i.base.coins, i.base.gems, i.sale.coins, i.sale.gems]

/-- Adds an item. -/
def insertItem (s : Store) (i : Item) : Except Stop Store := do
  checkFits (itemNumbers i)
  checkConstraint (itemIsUnique s.items i)
  return { s with items := s.items ++ [i] }

/-- Whether a row refers to an item. -/
def refersToItem (s : Store) (id : String) : Bool := s.possessions.any (·.itemId == id)

/-- Puts an item in the place of the one of an id; the id may change if no row
refers to it. -/
def replaceItem (s : Store) (id : String) (i : Item) : Except Stop Store := do
  checkFits (itemNumbers i)
  checkConstraint (itemIsUnique (s.items.filter (·.id != id)) i &&
    (i.id == id || !s.refersToItem id))
  return { s with items := s.items.map fun j => if j.id == id then i else j }

/-- Changes an item.  The time of the last change moves on only if some other
column changes. -/
def writeItem (s : Store) (now : Instant) (i : Item) : Except Stop Store :=
  match s.item? i.id with
  | none => .ok s
  | some old =>
    if { i with updatedAt := old.updatedAt } = old then .ok s
    else s.replaceItem i.id { i with updatedAt := now }

/-- Removes an item and every possession of it. -/
def deleteItem (s : Store) (id : String) : Store :=
  { s with
    items := s.items.filter (·.id != id)
    possessions := s.possessions.filter (·.itemId != id) }

/-! ### Possessions -/

/-- Whether a possession is of an item that exists by a user who exists. -/
def possessionRefers (s : Store) (p : Possession) : Bool :=
  (s.user? p.userId).isSome && (s.item? p.itemId).isSome

/-- Adds a possession. -/
def insertPossession (s : Store) (p : Possession) : Except Stop Store := do
  checkConstraint ((s.possession? p.userId p.itemId).isNone && s.possessionRefers p)
  return { s with possessions := s.possessions ++ [p] }

/-- Puts a possession in the place of another one. -/
def replacePossession (s : Store) (old p : Possession) : Except Stop Store := do
  let isOld (q : Possession) : Bool := q.userId == old.userId && q.itemId == old.itemId
  checkConstraint (s.possessionRefers p &&
    !(s.possessions.filter (!isOld ·)).any fun q => q.userId == p.userId && q.itemId == p.itemId)
  return { s with possessions := s.possessions.map fun q => if isOld q then p else q }

/-- Sets whether a possession is worn. -/
def writePossession (s : Store) (p : Possession) : Store :=
  { s with
    possessions := s.possessions.map fun q =>
      if q.userId == p.userId && q.itemId == p.itemId then p else q }

/-- Removes a possession. -/
def deletePossession (s : Store) (userId itemId : String) : Store :=
  { s with
    possessions := s.possessions.filter fun p => !(p.userId == userId && p.itemId == itemId) }

/-! ### Statistics -/

/-- The numbers of a row of statistics. -/
def statsNumbers (row : Stats) : List Int := [row.wins, row.top5, row.kills, row.games]

/-- Adds statistics of a user who exists. -/
def insertStats (s : Store) (row : Stats) : Except Stop Store := do
  checkFits (statsNumbers row)
  checkConstraint (!s.stats.any (·.id == row.id) && (s.user? row.userId).isSome)
  return { s with stats := s.stats ++ [row] }

/-- Puts statistics in the place of those with the same id. -/
def writeStats (s : Store) (row : Stats) : Except Stop Store := do
  checkFits (statsNumbers row)
  return { s with stats := s.stats.map fun old => if old.id == row.id then row else old }

/-- Puts statistics of a user who exists in the place of those of an id. -/
def replaceStats (s : Store) (id : String) (row : Stats) : Except Stop Store := do
  checkFits (statsNumbers row)
  checkConstraint (!(s.stats.filter (·.id != id)).any (·.id == row.id) &&
    (s.user? row.userId).isSome)
  return { s with stats := s.stats.map fun old => if old.id == id then row else old }

/-- Removes a row of statistics. -/
def deleteStats (s : Store) (id : String) : Store :=
  { s with stats := s.stats.filter (·.id != id) }

/-! ### News -/

/-- Whether an announcement differs from the others in id and title. -/
def newsIsUnique (others : List News) (n : News) : Bool :=
  !others.any fun m => m.id == n.id || m.title == n.title

/-- Adds an announcement. -/
def insertNews (s : Store) (n : News) : Except Stop Store := do
  checkConstraint (newsIsUnique s.news n)
  return { s with news := s.news ++ [n] }

/-- Puts an announcement in the place of the one of an id. -/
def replaceNews (s : Store) (id : String) (n : News) : Except Stop Store := do
  checkConstraint (newsIsUnique (s.news.filter (·.id != id)) n)
  return { s with news := s.news.map fun m => if m.id == id then n else m }

/-- Changes an announcement. -/
def writeNews (s : Store) (n : News) : Except Stop Store := s.replaceNews n.id n

/-- Removes an announcement. -/
def deleteNews (s : Store) (id : String) : Store :=
  { s with news := s.news.filter (·.id != id) }

end Store

end Guildhall
