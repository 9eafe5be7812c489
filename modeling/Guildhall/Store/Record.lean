/-
Guildhall/Store/Record.lean

Rows as records, the form in which they come in by hand and go out in a
dump: fields under the names of the columns.  `amend` sets the columns that
a record gives and leaves the others, `record` gives every column, and
`label` is the short text that stands for a row in a log.
-/
import Guildhall.Store.Statement

namespace Guildhall

/-- The fields of a row, by column. -/
abbrev Record := List (String × Value)

/-- The tables of a store. -/
inductive Table
  | users
  | items
  | possessions
  | stats
  | news
  deriving DecidableEq, Repr

namespace Table

/-- Every table. -/
def all : List Table := [users, items, possessions, stats, news]

/-- The name of a table. -/
def name : Table → String
  | users => "users"
  | items => "store_items"
  | possessions => "users_store_items"
  | stats => "user_stats"
  | news => "news"

/-- The columns of a table. -/
def columns : Table → List String
  | users =>
    ["id", "name", "email", "password", "is_admin", "coins", "gems", "created_at", "updated_at"]
  | items =>
    ["id", "name", "description", "type", "image_id", "coins_price", "gems_price", "on_sale",
      "sale_coins_price", "sale_gems_price", "created_at", "updated_at"]
  | possessions => ["user_id", "store_item_id", "equipped"]
  | stats => ["id", "user_id", "wins", "top5", "kills", "games"]
  | news => ["id", "title", "description", "image_link", "created_at"]

/-- The columns that are given as a count of microseconds, and under which name. -/
def timeColumns : List (String × String) :=
  [("created_at_us", "created_at"), ("updated_at_us", "updated_at")]

/-- Whether a field of a record is a column of a table. -/
def admits (t : Table) (field : String) : Bool :=
  t.columns.contains ((timeColumns.lookup field).getD field)

/-- The table of a name. -/
def ofName? (s : String) : Option Table := all.find? (·.name == s)

end Table

namespace Record

/-! ### Columns -/

/-- A text column; null breaks a constraint. -/
def text (r : Record) (column old : String) : Except Stop String :=
  match r.lookup column with
  | none => .ok old
  | some (.text s) => .ok s
  | some .null => .error .integrity
  | some (.int n) => if fits n then .ok (Value.int n).display else .error .overflow
  | some _ => .error .storage

/-- A column of whole numbers. -/
def number (r : Record) (column : String) (old : Int) : Except Stop Int :=
  match r.lookup column with
  | none => .ok old
  | some (.int n) => .ok n
  | some (.bool b) => .ok (if b then 1 else 0)
  | some .null => .error .integrity
  | some _ => .error .storage

/-- A column of truth values. -/
def flag (r : Record) (column : String) (old : Bool) : Except Stop Bool :=
  match r.lookup column with
  | none => .ok old
  | some (.bool b) => .ok b
  | some (.int 0) => .ok false
  | some (.int 1) => .ok true
  | some .null => .error .integrity
  | some _ => .error .badCall

/-- A column of instants, given in microseconds. -/
def instant (r : Record) (column : String) (old : Instant) : Except Stop Instant :=
  match r.lookup column with
  | some (.int n) => (Instant.ofMicros? n).elim (.error .overflow) .ok
  | _ => .ok old

/-! ### Labels -/

/-- The text for a row of some tables; fields that are missing count as null. -/
def labelIn (r : Record) : Table → Option String
  | .users => some <|
    "<User id=" ++ (Value.get r "id").display ++ " name=" ++ shown "name" ++
      " coins=" ++ (Value.get r "coins").display ++ " gems=" ++ (Value.get r "gems").display ++ ">"
  | .items => some <|
    "<StoreItem id=" ++ (Value.get r "id").display ++ " name=" ++ shown "name" ++
      " type=" ++ (Value.get r "type").display ++ ">"
  | .possessions => some <|
    "<Possession user_id=" ++ (Value.get r "user_id").display ++
      " store_item_id=" ++ (Value.get r "store_item_id").display ++
      " equipped=" ++ (Value.get r "equipped").display ++ ">"
  | .stats | .news => none
where
  shown (column : String) : String := String.ofList (Value.get r column).literal

/-- The text for a row of a table, if it has no other fields than columns. -/
def label (r : Record) (t : Table) : Option String :=
  if r.all fun field => t.admits field.1 then r.labelIn t else none

/-- The active price in a record of an item, as the record gives it. -/
def activePrice (r : Record) : Price Value :=
  let get := Value.get r
  Price.active (get "on_sale").holds ⟨get "sale_coins_price", get "sale_gems_price"⟩
    ⟨get "coins_price", get "gems_price"⟩

end Record

/-! ### Rows from records -/

/-- A user with the columns of a record. -/
def User.amend (u : User) (r : Record) : Except Stop User := do
  return { u with
    id := ← r.text "id" u.id
    name := ← r.text "name" u.name
    email := ← r.text "email" u.email
    password := ← r.text "password" u.password
    isAdmin := ← r.flag "is_admin" u.isAdmin
    coins := ← r.number "coins" u.coins
    gems := ← r.number "gems" u.gems
    createdAt := ← r.instant "created_at_us" u.createdAt
    updatedAt := ← r.instant "updated_at_us" u.updatedAt }

/-- An item with the columns of a record. -/
def Item.amend (i : Item) (r : Record) : Except Stop Item := do
  return { i with
    id := ← r.text "id" i.id
    name := ← r.text "name" i.name
    description := ← r.text "description" i.description
    slot := ← r.number "type" i.slot
    imageId := ← r.text "image_id" i.imageId
    base := ⟨← r.number "coins_price" i.base.coins, ← r.number "gems_price" i.base.gems⟩
    onSale := ← r.flag "on_sale" i.onSale
    sale := ⟨← r.number "sale_coins_price" i.sale.coins, ← r.number "sale_gems_price" i.sale.gems⟩
    createdAt := ← r.instant "created_at_us" i.createdAt
    updatedAt := ← r.instant "updated_at_us" i.updatedAt }

/-- A possession with the columns of a record. -/
def Possession.amend (p : Possession) (r : Record) : Except Stop Possession := do
  return {
    userId := ← r.text "user_id" p.userId
    itemId := ← r.text "store_item_id" p.itemId
    equipped := ← r.flag "equipped" p.equipped }

/-- Statistics with the columns of a record. -/
def Stats.amend (row : Stats) (r : Record) : Except Stop Stats := do
  return { row with
    id := ← r.text "id" row.id
    userId := ← r.text "user_id" row.userId
    wins := ← r.number "wins" row.wins
    top5 := ← r.number "top5" row.top5
    kills := ← r.number "kills" row.kills
    games := ← r.number "games" row.games }

/-- An announcement with the columns of a record. -/
def News.amend (n : News) (r : Record) : Except Stop News := do
  return { n with
    id := ← r.text "id" n.id
    title := ← r.text "title" n.title
    description := ← r.text "description" n.description
    imageLink := ← r.text "image_link" n.imageLink
    createdAt := ← r.instant "created_at_us" n.createdAt }

/-! ### Records from rows -/

/-- Every column of a user. -/
def User.record (u : User) : Record :=
  [("id", .text u.id), ("name", .text u.name), ("email", .text u.email),
    ("password", .text u.password), ("is_admin", .bool u.isAdmin), ("coins", .int u.coins),
    ("gems", .int u.gems), ("created_at", .text u.createdAt.iso),
    ("updated_at", .text u.updatedAt.iso)]

/-- Every column of an item. -/
def Item.record (i : Item) : Record :=
  [("id", .text i.id), ("name", .text i.name), ("description", .text i.description),
    ("type", .int i.slot), ("image_id", .text i.imageId), ("coins_price", .int i.base.coins),
    ("gems_price", .int i.base.gems), ("on_sale", .bool i.onSale),
    ("sale_coins_price", .int i.sale.coins), ("sale_gems_price", .int i.sale.gems),
    ("created_at", .text i.createdAt.iso), ("updated_at", .text i.updatedAt.iso)]

/-- Every column of a possession. -/
def Possession.record (p : Possession) : Record :=
  [("user_id", .text p.userId), ("store_item_id", .text p.itemId), ("equipped", .bool p.equipped)]

/-- Every column of statistics. -/
def Stats.record (row : Stats) : Record :=
  [("id", .text row.id), ("user_id", .text row.userId), ("wins", .int row.wins),
    ("top5", .int row.top5), ("kills", .int row.kills), ("games", .int row.games)]

/-- Every column of an announcement. -/
def News.record (n : News) : Record :=
  [("id", .text n.id), ("title", .text n.title), ("description", .text n.description),
    ("image_link", .text n.imageLink), ("created_at", .text n.createdAt.iso)]

/-! ### Dumps -/

namespace Store

/-- Whether a possession is not after another one: by user, then by item. -/
def possessionLE (p q : Possession) : Bool :=
  p.userId < q.userId || (p.userId == q.userId && p.itemId ≤ q.itemId)

/-- The rows of a table by key, as records. -/
def records (s : Store) : Table → List Record
  | .users => (s.users.mergeSort fun u v => u.id ≤ v.id).map User.record
  | .items => (s.items.mergeSort fun i j => i.id ≤ j.id).map Item.record
  | .possessions => (s.possessions.mergeSort possessionLE).map Possession.record
  | .stats => (s.stats.mergeSort fun a b => a.id ≤ b.id).map Stats.record
  | .news => (s.news.mergeSort fun m n => m.id ≤ n.id).map News.record

/-- All tables, by name. -/
def dump (s : Store) : Value :=
  .object (Table.all.map fun t => (t.name, .list ((s.records t).map .object)))

end Store

end Guildhall
