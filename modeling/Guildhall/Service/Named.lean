/-
Guildhall/Service/Named.lean

Calls by name.  Every call has a name, parameters that must be given and
parameters with a default; `Call.ofNamed` makes a call of a name and of
arguments that are given by the names of their parameters.
-/
import Guildhall.Service
import Guildhall.Signature

namespace Guildhall

namespace Call

/-- Numbers that are zero unless they are given. -/
def zeros (names : List String) : List (String × Value) := names.map fun name => (name, .int 0)

/-- Arguments that are null unless they are given. -/
def nulls (names : List String) : List (String × Value) := names.map fun name => (name, .null)

/-- A call on a user and an item. -/
def onPair (call : Value → Value → Call) : Signature Call :=
  { required := ["user_id", "item_id"], call := fun a => call (a "user_id") (a "item_id") }

/-- A call with one argument. -/
def onOne (name : String) (call : Value → Call) : Signature Call :=
  { required := [name], call := fun a => call (a name) }

/-- The creation of an item. -/
def itemCreation : Signature Call :=
  { required := ["name", "item_type", "image_id"]
    optional := ("description", .text "") :: ("on_sale", .bool false) ::
      zeros ["coins_price", "gems_price", "sale_coins_price", "sale_gems_price"]
    call := fun a => .createItem
      { name := a "name", slot := a "item_type", imageId := a "image_id",
        description := a "description", coins := a "coins_price", gems := a "gems_price",
        onSale := a "on_sale", saleCoins := a "sale_coins_price",
        saleGems := a "sale_gems_price" } }

/-- The change of an item. -/
def itemChange : Signature Call :=
  { required := ["item_id"]
    optional := nulls ["name", "item_type", "image_id", "description", "coins_price",
      "gems_price", "sale_coins_price", "sale_gems_price"]
    call := fun a => .updateItem (a "item_id")
      { name := a "name", slot := a "item_type", imageId := a "image_id",
        description := a "description", coins := a "coins_price", gems := a "gems_price",
        saleCoins := a "sale_coins_price", saleGems := a "sale_gems_price" } }

/-- The signature of every call, by name. -/
def signatures : List (String × Signature Call) :=
  [("users.create",
      { required := ["name", "email", "password"],
        call := fun a => .register (a "name") (a "email") (a "password") }),
    ("users.read", onOne "provided_id" .readUser),
    ("users.update", { onOne "user_id" (fun _ => .updateUser) with isOpen := true }),
    ("users.delete", onOne "user_id" .deleteUser),
    ("users.list", { call := fun _ => .listUsers }),
    ("users.login",
      { required := ["provided_id", "password"],
        call := fun a => .login (a "provided_id") (a "password") }),
    ("users.get_version", { call := fun _ => .version }),
    ("currencies.grant_currencies",
      { required := ["provided_id"], optional := zeros ["add_coins", "add_gems"],
        call := fun a => .grant (a "provided_id") (a "add_coins") (a "add_gems") }),
    ("store_items.create", itemCreation),
    ("store_items.read", onOne "item_id" .readItem),
    ("store_items.list", { call := fun _ => .listItems }),
    ("store_items.update", itemChange),
    ("store_items.delete", onOne "item_id" .deleteItem),
    ("store_items.get_user_items_ids", onOne "user_id" .userItems),
    ("store_items.get_equipped_user_items_ids", onOne "user_id" .equippedItems),
    ("purchase.buy_by_user", onPair .buy),
    ("purchase.throw_away_by_user", onPair .throwAway),
    ("equip.equip_by_user", onPair .equip),
    ("stats.get_stats", onOne "username" .readStats),
    ("stats.update_stats",
      { required := ["username"],
        optional := zeros ["add_kills", "add_games", "add_top5", "add_wins"],
        call := fun a => .addStats (a "username")
          { kills := a "add_kills", games := a "add_games", top5 := a "add_top5",
            wins := a "add_wins" } }),
    ("news.create",
      { required := ["title"], optional := [("description", .text ""), ("image_link", .text "")],
        call := fun a => .createNews (a "title") (a "description") (a "image_link") }),
    ("news.read", onOne "news_id" .readNews),
    ("news.list", { call := fun _ => .listNews }),
    ("news.update",
      { required := ["news_id"], optional := nulls ["title", "description", "image_link"],
        call := fun a =>
          .updateNews (a "news_id") (a "title") (a "description") (a "image_link") })]

/-- The call of a name with arguments. -/
def ofNamed (name : String) (args : List (String × Value)) : Except Stop Call :=
  match signatures.lookup name with
  | none => .error .badCall
  | some s => (s.callWith? args).elim (.error .badCall) .ok

end Call

end Guildhall
