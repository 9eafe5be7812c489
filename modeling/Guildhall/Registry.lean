/-
Guildhall/Registry.lean

The accounts: registration, profiles, removal and login.  A registration
adds the user, with empty balances, and one row of empty statistics.  A
user is looked up by id, name or email address, in that order.  Passwords
are kept as digests and never shown; every failed login says the same.
-/
import Guildhall.Input
import Guildhall.Store.Session
import Guildhall.Token.Issuer

namespace Guildhall.Registry

open Session

/-! ### What is shown of a user -/

/-- A user without the digest of the password. -/
structure Profile where
  id : String
  name : String
  email : String
  coins : Int
  gems : Int
  isAdmin : Bool
  createdAt : Instant
  updatedAt : Instant
  deriving DecidableEq, Repr

/-- The profile of a user. -/
def profile (u : User) : Profile :=
  { id := u.id, name := u.name, email := u.email, coins := u.coins, gems := u.gems,
    isAdmin := u.isAdmin, createdAt := u.createdAt, updatedAt := u.updatedAt }

/-- The answer to a login. -/
structure Login where
  token : String
  expiresAt : Instant
  isAdmin : Bool
  deriving DecidableEq, Repr

/-! ### Passwords -/

/-- The digest of a password, in hexadecimal digits. -/
def hashPassword (password : String) : String :=
  String.ofList (Text.hexBytes (Digest.sha256 (Text.Utf8.bytes password)))

/-! ### Registration -/

/-- Stops if another user has the name or the email address.  The name is looked
at first; each is `given` as it came in and compared as it has been checked. -/
def ensureFree (s : Store) (givenName givenEmail : Value) (name email : String) :
    Except Stop Unit := do
  checkBytes givenName
  if s.users.any (·.name == name) then fail (.alreadyExists .userName)
  checkBytes givenEmail
  if s.users.any (·.email == email) then fail (.alreadyExists .userEmail)

/-- Adds a user and the user's empty statistics. -/
def register (m : Moment) (givenName givenEmail givenPassword : Value) : Session Profile := do
  let name ← Input.text givenName "name" (some Input.nameLimit)
  let email ← Input.email givenEmail "email"
  let password ← Input.text givenPassword "password" none
  reporting (.alreadyExists .user)
      (storageFailure "create_user" "Could not create new user" [("user_name", .text name)]) <|
    transaction do
      ensureFree (← store) givenName givenEmail name email
      checkBytes givenPassword
      let id ← takeRowId
      let user : User := { id, name, email, password := hashPassword password,
                           createdAt := m.now, updatedAt := m.now }
      run (·.insertUser user)
      flush m .users
      let statsId ← takeRowId
      run (·.insertStats { id := statsId, userId := id })
      flush m .userStats
      return profile user

/-! ### Profiles -/

/-- The profile of the user whom a key means. -/
def read (given : Value) : Session Profile := do
  let key ← Input.identifier given "id"
  reportingAs (storageFailure "read_user" "Could not find user" [("provided_id", .text key)]) <|
    transaction do
      match (← storeFor given).userByKey? key with
      | some user => return profile user
      | none => fail (.notFound "User" (.text key))

/-- Profiles cannot be changed yet. -/
def update : Session Unit := fail (.unimplemented "Users/Update" notOffered)

/-- Users are not listed yet. -/
def list : Session Unit := fail (.unimplemented "Users/List" notOffered)

/-! ### Removal -/

/-- Removes the user of an id; it is no failure if there is none. -/
def delete (given : Value) : Session Unit := do
  let id ← Input.identifier given "id"
  reportingAs (storageFailure "delete_user" "Could not delete user" [("user_id", .text id)]) <|
    transaction (run fun s => (checkBytes given).map fun _ => s.deleteUser id)

/-! ### Login -/

/-- The one failure of every login that is refused. -/
def badLogin : Failure := .invalid "login" .badLogin

/-- The text that a lookup key is compared as, if it can be equal to one; the
storage compares a number by its digits and cannot compare a composite
value. -/
def lookupText (key : Value) : Except Stop (Option String) := do
  match key with
  | .text s => return some s
  | .torn _ => throw .unencodable
  | .bool b => return some (if b then "1" else "0")
  | .int n =>
    checkFits [n]
    return some key.display
  | .float .nan | .bytes _ => return none
  | .float x => return some (String.ofList x.columnChars)
  | .null | .list _ | .object _ => throw .storage

/-- Issues a token for a user. -/
def issue (issuer : Token.Issuer) (now : Instant) (holder : Token.Holder) :
    Session Token.Issued := do
  let some expiresAt := issuer.expiry? now | throw .overflow
  let tokenId ← takeTokenId
  issuer.sign (issuer.claims now expiresAt tokenId holder)

/-- Whether a token could not be issued for a reason that stays in the logs. -/
def isSigningProblem : Stop → Bool
  | .outage _ | .keyRejected | .badValue _ | .badCall | .unencodable | .unusable => true
  | _ => false

/-- Issues a token for a user who has logged in. -/
def issueFor (issuer : Token.Issuer) (now : Instant) (u : User) : Session Login := fun d =>
  let holder : Token.Holder :=
    { userId := u.id, username := u.name, userEmail := u.email, isAdmin := u.isAdmin }
  match issue issuer now holder d with
  | .ok issued d => .ok { token := issued.token, expiresAt := issued.expiresAt,
                          isAdmin := u.isAdmin } d
  | .error stop d =>
    if isSigningProblem stop then
      .error (.failure (storageFailure "login" "Unable to login" [("user_id", .text u.id)])) d
    else .error stop d

/-- Whether a password is that of a stored digest.  Digests are compared in
constant time, which takes ASCII digests only. -/
def checkPassword (u : User) (password : Value) : Except Stop Bool := do
  checkBytes password
  let .text s := password | throw .noText
  if u.password.toList.all (·.toNat < 128) then return u.password == hashPassword s
  else throw .badCall

/-- Checks a password and issues a token. -/
def login (issuer : Token.Issuer) (m : Moment) (key password : Value) : Session Login := do
  if !key.holds || !password.holds then fail badLogin
  let found ← reportingAs (storageFailure "login" "Unable to login" [("provided_id", key)]) <|
    transaction do
      let key ← lookupText key
      return key.bind (← store).userByKey?
  let some user := found | fail badLogin
  if !(← checkPassword user password) then fail badLogin
  issueFor issuer m.now user

end Guildhall.Registry
