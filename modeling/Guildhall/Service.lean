/-
Guildhall/Service.lean

The service as one function: `perform` runs a call on a desk and gives its
answer.  A call carries its arguments as they were handed in; checking them
is the work of the module that answers the call.
-/
import Guildhall.Bulletin
import Guildhall.Catalogue
import Guildhall.Market
import Guildhall.Registry
import Guildhall.Scoreboard
import Guildhall.Treasury
import Guildhall.Wardrobe

namespace Guildhall

/-! ### Calls and answers -/

/-- A call of the service with its arguments. -/
inductive Call
  | register (name email password : Value)
  | readUser (key : Value)
  | updateUser
  | deleteUser (id : Value)
  | listUsers
  | login (key password : Value)
  | version
  | grant (key coins gems : Value)
  | createItem (draft : Catalogue.Draft)
  | readItem (id : Value)
  | listItems
  | updateItem (id : Value) (change : Catalogue.Change)
  | deleteItem (id : Value)
  | userItems (userId : Value)
  | equippedItems (userId : Value)
  | buy (userId itemId : Value)
  | throwAway (userId itemId : Value)
  | equip (userId itemId : Value)
  | readStats (username : Value)
  | addStats (username : Value) (deltas : Scoreboard.Deltas)
  | createNews (title description imageLink : Value)
  | readNews (id : Value)
  | listNews
  | updateNews (id title description imageLink : Value)

/-- What a call answers. -/
inductive Answer
  | done
  | version (text : String)
  | profile (p : Registry.Profile)
  | login (l : Registry.Login)
  | balance (b : Treasury.Balance)
  | item (i : Item)
  | items (is : List Item)
  | possessions (ps : List Possession)
  | fitting (f : Wardrobe.Fitting)
  | score (s : Scoreboard.Score)
  | news (n : News)
  | newsList (ns : List News)
  deriving DecidableEq, Repr

/-- The parts of the service that calls share. -/
structure Service where
  issuer : Token.Issuer
  version : String

/-- Runs a call. -/
def Service.perform (service : Service) (m : Moment) : Call → Session Answer
  | .register name email password => return .profile (← Registry.register m name email password)
  | .readUser key => return .profile (← Registry.read key)
  | .updateUser => do
    Registry.update
    return .done
  | .deleteUser id => do
    Registry.delete id
    return .done
  | .listUsers => do
    Registry.list
    return .done
  | .login key password => return .login (← Registry.login service.issuer m key password)
  | .version => return .version service.version
  | .grant key coins gems => return .balance (← Treasury.grant m key coins gems)
  | .createItem draft => return .item (← Catalogue.create m draft)
  | .readItem id => return .item (← Catalogue.read id)
  | .listItems => return .items (← Catalogue.list)
  | .updateItem id change => return .item (← Catalogue.update m id change)
  | .deleteItem id => do
    Catalogue.delete id
    return .done
  | .userItems userId => return .possessions (← Catalogue.userItems userId)
  | .equippedItems userId => return .possessions (← Catalogue.equippedItems userId)
  | .buy userId itemId => do
    Market.buy m userId itemId
    return .done
  | .throwAway userId itemId => do
    Market.throwAway m userId itemId
    return .done
  | .equip userId itemId => return .fitting (← Wardrobe.equip m userId itemId)
  | .readStats username => return .score (← Scoreboard.read username)
  | .addStats username deltas => return .score (← Scoreboard.add m username deltas)
  | .createNews title description imageLink =>
    return .news (← Bulletin.create m title description imageLink)
  | .readNews id => return .news (← Bulletin.read id)
  | .listNews => return .newsList (← Bulletin.list)
  | .updateNews id title description imageLink =>
    return .news (← Bulletin.update m id title description imageLink)

/-- Runs a call that the deadline cuts off behind its unit of work. -/
def Service.performCut (service : Service) (m : Moment) (call : Call) : Session Answer :=
  Session.cutLate (service.perform m call)

/-! ### Answers as values -/

namespace Answer

/-- The fields of a profile. -/
def ofProfile (p : Registry.Profile) : Value :=
  .object [("id", .text p.id), ("name", .text p.name), ("email", .text p.email),
    ("coins", .int p.coins), ("gems", .int p.gems), ("is_admin", .bool p.isAdmin),
    ("created_at", .text p.createdAt.iso), ("updated_at", .text p.updatedAt.iso)]

/-- The fields of an item. -/
def ofItem (i : Item) : Value :=
  .object [("id", .text i.id), ("name", .text i.name), ("description", .text i.description),
    ("type", .int i.slot), ("coins_price", .int i.base.coins), ("gems_price", .int i.base.gems),
    ("image_id", .text i.imageId), ("on_sale", .bool i.onSale),
    ("sale_coins_price", .int i.sale.coins), ("sale_gems_price", .int i.sale.gems),
    ("created_at", .text i.createdAt.iso), ("updated_at", .text i.updatedAt.iso)]

/-- The fields of a possession. -/
def ofPossession (p : Possession) : Value :=
  .object [("item_id", .text p.itemId), ("equipped", .bool p.equipped)]

/-- The fields of statistics. -/
def ofScore (s : Scoreboard.Score) : Value :=
  .object [("username", .text s.username), ("wins", .int s.wins), ("top5", .int s.top5),
    ("kills", .int s.kills), ("games", .int s.games)]

/-- The fields of an announcement. -/
def ofNews (n : News) : Value :=
  .object [("id", .text n.id), ("title", .text n.title), ("description", .text n.description),
    ("image_link", .text n.imageLink), ("created_at", .text n.createdAt.iso)]

/-- An answer as a value.  Times of rows are written without an offset; how the
expiry of a token is written is up to the caller. -/
def value (expiry : Instant → String) : Answer → Value
  | done => .null
  | version text => .object [("version", .text text)]
  | profile p => ofProfile p
  | login l =>
    .object [("token", .text l.token), ("expires_at", .text (expiry l.expiresAt)),
      ("is_admin", .bool l.isAdmin)]
  | balance b =>
    .object [("user_id", .text b.userId), ("coins", .int b.coins), ("gems", .int b.gems)]
  | item i => ofItem i
  | items is => .object [("results", .list (is.map ofItem))]
  | possessions ps => .object [("items", .list (ps.map ofPossession))]
  | fitting f =>
    .object [("user_id", .text f.userId), ("item_id", .text f.itemId),
      ("previous_item_id", Value.ofText? f.previousItemId), ("changed", .bool f.changed)]
  | score s => ofScore s
  | news n => ofNews n
  | newsList ns => .object [("results", .list (ns.map ofNews))]

end Answer

end Guildhall
