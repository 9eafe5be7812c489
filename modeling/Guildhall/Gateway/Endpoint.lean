/-
Guildhall/Gateway/Endpoint.lean

The endpoints of the gateway: at which paths they are, which operation each
one runs, on whom, what its body holds and how its answer is shown.  The
order of `Endpoint.all` is the order in which paths are compared.
-/
import Guildhall.Gateway.Response
import Guildhall.Gateway.Target
import Guildhall.Policy
import Guildhall.Service
import Guildhall.Text.Part

namespace Guildhall.Gateway

/-- The endpoints. -/
inductive Endpoint
  | createUser
  | login
  | listUsers
  | readUser
  | updateUser
  | deleteUser
  | grantCurrencies
  | version
  | createItem
  | listItems
  | readItem
  | updateItem
  | deleteItem
  | buy
  | equip
  | throwAway
  | userItems
  | equippedItems
  | readStats
  | addStats
  | createNews
  | listNews
  | readNews
  | updateNews
  deriving DecidableEq, Repr

namespace Endpoint

/-- Every endpoint. -/
def all : List Endpoint :=
  [createUser, login, listUsers, readUser, updateUser, deleteUser, grantCurrencies, version,
    createItem, listItems, readItem, updateItem, deleteItem, buy, equip, throwAway, userItems,
    equippedItems, readStats, addStats, createNews, listNews, readNews, updateNews]

/-! ### Methods and paths -/

/-- The method of an endpoint. -/
def method : Endpoint → String
  | createUser | login | grantCurrencies | createItem | buy | equip | throwAway | addStats
  | createNews => "POST"
  | listUsers | readUser | version | listItems | readItem | userItems | equippedItems
  | readStats | listNews | readNews => "GET"
  | updateUser | updateItem | updateNews => "PATCH"
  | deleteUser | deleteItem => "DELETE"

/-- A part of a path. -/
inductive Segment
  | fixed (name : String)
  | parameter
  deriving DecidableEq, Repr

/-- The path of an endpoint, below the common beginning of all paths. -/
def path : Endpoint → List Segment
  | createUser | listUsers => [.fixed "users"]
  | login => [.fixed "users", .fixed "login"]
  | readUser | updateUser | deleteUser => [.fixed "users", .parameter]
  | grantCurrencies => [.fixed "users", .parameter, .fixed "currencies"]
  | version => [.fixed "version"]
  | createItem | listItems => [.fixed "store_items"]
  | readItem | updateItem | deleteItem => [.fixed "store_items", .parameter]
  | buy => [.fixed "users", .parameter, .fixed "store_items", .parameter, .fixed "buy"]
  | equip => [.fixed "users", .parameter, .fixed "store_items", .parameter, .fixed "equip"]
  | throwAway =>
    [.fixed "users", .parameter, .fixed "store_items", .parameter, .fixed "throw_away"]
  | userItems => [.fixed "users", .parameter, .fixed "store_items"]
  | equippedItems => [.fixed "users", .parameter, .fixed "store_items", .fixed "equipped"]
  | readStats | addStats => [.fixed "stats", .parameter]
  | createNews | listNews => [.fixed "news"]
  | readNews | updateNews => [.fixed "news", .parameter]

/-! ### Comparing paths -/

/-- The parameters of a path by its pattern, in order.  A parameter is not empty
and holds no slash; a line feed may follow a fixed last part. -/
def parameters? : List Segment → List Char → Option (List String)
  | [], rest => if rest.isEmpty || rest = ['\n'] then some [] else none
  | .fixed name :: pattern, '/' :: rest =>
    (Text.after? name.toList rest).bind (parameters? pattern)
  | .parameter :: pattern, '/' :: rest =>
    let value := rest.takeWhile (· != '/')
    if value.isEmpty then none
    else
      (parameters? pattern (rest.dropWhile (· != '/'))).map (String.ofList value :: ·)
  | _ :: _, _ => none

/-- The parameters of a path that is one of an endpoint. -/
def match? (e : Endpoint) (start : String) (path : List Char) : Option (List String) :=
  (Text.after? start.toList path).bind (parameters? e.path)

/-! ### Operations -/

/-- The name of the operation that an endpoint runs. -/
def operation : Endpoint → String
  | createUser => "Users/Create"
  | login => "Users/Login"
  | listUsers => "Users/List"
  | readUser => "Users/Read"
  | updateUser => "Users/Update"
  | deleteUser => "Users/Delete"
  | grantCurrencies => "Users/GrantCurrencies"
  | version => "UsersService/GetVersion"
  | createItem => "StoreItems/Create"
  | listItems => "StoreItems/List"
  | readItem => "StoreItems/Read"
  | updateItem => "StoreItems/Update"
  | deleteItem => "StoreItems/Delete"
  | buy => "StoreItems/BuyByUser"
  | equip => "StoreItems/EquipByUser"
  | throwAway => "StoreItems/ThrowAwayByUser"
  | userItems => "StoreItems/GetUserItemsIds"
  | equippedItems => "StoreItems/GetEquippedUserItemsIds"
  | readStats => "UsersStats/GetStats"
  | addStats => "UsersStats/UpdateStats"
  | createNews => "NewsService/Create"
  | listNews => "NewsService/List"
  | readNews => "NewsService/Read"
  | updateNews => "NewsService/Update"

/-- The policy of an endpoint. -/
def policy (e : Endpoint) : Policy :=
  (operationPolicies.lookup e.operation).getD .privileged

/-- Whether an endpoint is about the user whom its first parameter names. -/
def isAboutUser : Endpoint → Bool
  | readUser | updateUser | deleteUser | grantCurrencies | buy | equip | throwAway | userItems
  | equippedItems => true
  | _ => false

/-- Whether an endpoint looks at the credential of the caller. -/
def takesCredential : Endpoint → Bool
  | createUser | login => false
  | _ => true

/-! ### Bodies -/

/-- Numbers that are zero unless they are given. -/
def zeroFields (names : List String) : Schema :=
  names.map fun name => .optional name .number (.int 0)

/-- Texts that may be left out. -/
def openTexts (names : List String) : Schema := names.map fun name => .nullableField name .text

/-- Numbers that may be left out. -/
def openNumbers (names : List String) : Schema :=
  names.map fun name => .nullableField name .number

/-- The body of an endpoint that has one. -/
def schema? : Endpoint → Option Schema
  | createUser => some
    [.required "name" .text, .required "email" .text, .required "password" .text]
  | login => some [.required "id" .text, .required "password" .text]
  | updateUser => some (openTexts ["name", "email", "password"])
  | grantCurrencies => some (zeroFields ["add_coins", "add_gems"])
  | createItem => some <|
    [.required "name" .text, .required "type" .number, .required "image_id" .text,
      .optional "description" .text (.text "")] ++ zeroFields ["coins_price", "gems_price"] ++
      .optional "on_sale" .flag (.bool false) :: zeroFields ["sale_coins_price", "sale_gems_price"]
  | updateItem => some <|
    openTexts ["name"] ++ openNumbers ["type"] ++ openTexts ["image_id", "description"] ++
      openNumbers ["coins_price", "gems_price", "sale_coins_price", "sale_gems_price"]
  | addStats => some (zeroFields ["add_kills", "add_games", "add_top5", "add_wins"])
  | createNews => some
    [.required "title" .text, .optional "description" .text (.text ""),
      .optional "image_link" .text (.text "")]
  | updateNews => some (openTexts ["title", "description", "image_link"])
  | _ => none

/-- The call of an endpoint, given the parameters of its path and the fields of
its body. -/
def call (e : Endpoint) (parameters : List String) (body : List (String × Value)) : Call :=
  let first : Value := .text (parameters.head?.getD "")
  let second : Value := .text (parameters[1]?.getD "")
  let field := Value.get body
  match e with
  | createUser => .register (field "name") (field "email") (field "password")
  | login => .login (field "id") (field "password")
  | listUsers => .listUsers
  | readUser => .readUser first
  | updateUser => .updateUser
  | deleteUser => .deleteUser first
  | grantCurrencies => .grant first (field "add_coins") (field "add_gems")
  | version => .version
  | createItem => .createItem
    { name := field "name", slot := field "type", imageId := field "image_id",
      description := field "description", coins := field "coins_price",
      gems := field "gems_price", onSale := field "on_sale",
      saleCoins := field "sale_coins_price", saleGems := field "sale_gems_price" }
  | listItems => .listItems
  | readItem => .readItem first
  | updateItem => .updateItem first
    { name := field "name", slot := field "type", imageId := field "image_id",
      description := field "description", coins := field "coins_price",
      gems := field "gems_price", saleCoins := field "sale_coins_price",
      saleGems := field "sale_gems_price" }
  | deleteItem => .deleteItem first
  | buy => .buy first second
  | equip => .equip first second
  | throwAway => .throwAway first second
  | userItems => .userItems first
  | equippedItems => .equippedItems first
  | readStats => .readStats first
  | addStats => .addStats first
    { kills := field "add_kills", games := field "add_games", top5 := field "add_top5",
      wins := field "add_wins" }
  | createNews => .createNews (field "title") (field "description") (field "image_link")
  | listNews => .listNews
  | readNews => .readNews first
  | updateNews => .updateNews first (field "title") (field "description") (field "image_link")

/-! ### Answers -/

/-- Whether the result of an endpoint is not shown. -/
def isSilent : Endpoint → Bool
  | listUsers | deleteUser | deleteItem | buy | equip | throwAway => true
  | _ => false

/-- An answer as the endpoint shows it. -/
def shown (e : Endpoint) (a : Answer) : Value :=
  if e.isSilent then .object [] else a.value Instant.isoZulu

end Endpoint

end Guildhall.Gateway
