/-
Guildhall/Claims.lean

The identity that a bearer token carries.  `ofPayload` reads claims from
the payload of a token: the expiry is required, everything else may be
absent or null, unknown fields never matter and every other shape is
refused with its cause.  `payload` writes claims back, leaving out what is
empty.
-/
import Guildhall.Calendar
import Guildhall.Value

namespace Guildhall

open Number

/-- The decoded identity of a caller. -/
structure Claims where
  expiresAt : Instant
  userId : String := ""
  username : String := ""
  userEmail : String := ""
  isAdmin : Bool := false
  audience : List String := []
  issuedAt : Option Instant := none
  notBefore : Option Instant := none
  issuer : String := ""
  tokenId : String := ""
  deriving DecidableEq, Repr

/-- Why a payload holds no claims. -/
inductive ClaimsFault
  | notAnObject
  | notText (name : String)
  | notADate (name : String)
  | expiryMissing
  | adminNotABoolean
  | badAudience
  | dateOutOfRange
  deriving DecidableEq, Repr

/-- The message for a payload without claims. -/
def ClaimsFault.message : ClaimsFault → String
  | .notAnObject => "token payload is not an object"
  | .notText name => "claim '" ++ name ++ "' must be a string"
  | .notADate name => "claim '" ++ name ++ "' must be a numeric date"
  | .expiryMissing => "claim 'exp' is required"
  | .adminNotABoolean => "claim 'is_admin' must be a boolean"
  | .badAudience => "claim 'aud' must be a string or list of strings"
  | .dateOutOfRange => "claim date out of range"

namespace Claims

/-! ### Rights -/

/-- The audience of tokens that other services hold. -/
def serviceAudience : String := "svc"

/-- Whether a token is meant for an audience. -/
def hasAudience (c : Claims) (audience : String) : Bool := c.audience.contains audience

/-- Administrators and services may run the privileged operations. -/
def isPrivileged (c : Claims) : Bool := c.isAdmin || c.hasAudience serviceAudience

/-- A token is expired after its last instant. -/
def isExpired (c : Claims) (now : Instant) : Bool := c.expiresAt < now

/-! ### Reading -/

/-- A claim that is a text; empty if it is absent. -/
def readText (fields : List (String × Value)) (name : String) : Except ClaimsFault String :=
  match Value.get fields name with
  | .null => .ok ""
  | .text s | .torn s => .ok s
  | _ => .error (.notText name)

/-- A claim that is a date, in seconds; `none` if it is absent. -/
def readDate (fields : List (String × Value)) (name : String) :
    Except ClaimsFault (Option Quantity) :=
  match Value.get fields name with
  | .null => .ok none
  | .int n => .ok (some (.whole n))
  | .float x => .ok (some (.fractional x))
  | _ => .error (.notADate name)

/-- The administrator flag; it may be absent, but not null. -/
def readAdmin (fields : List (String × Value)) : Except ClaimsFault Bool :=
  match fields.lookup "is_admin" with
  | none => .ok false
  | some (.bool b) => .ok b
  | some _ => .error .adminNotABoolean

/-- The texts of a list, if it holds nothing else. -/
def texts? : List Value → Option (List String)
  | [] => some []
  | .text s :: rest | .torn s :: rest => (texts? rest).map (s :: ·)
  | _ :: _ => none

/-- The audience: one text, or a list of them. -/
def readAudience (fields : List (String × Value)) : Except ClaimsFault (List String) :=
  match Value.get fields "aud" with
  | .null => .ok []
  | .text s | .torn s => .ok [s]
  | .list items =>
    match texts? items with
    | some names => .ok names
    | none => .error .badAudience
  | _ => .error .badAudience

/-- The instant of a date, if the calendar has it. -/
def instantOf (date : Quantity) : Except ClaimsFault Instant :=
  (Instant.ofQuantity? date).elim (.error .dateOutOfRange) .ok

/-- The instant of a date that may be absent. -/
def optionalInstant : Option Quantity → Except ClaimsFault (Option Instant)
  | none => .ok none
  | some date => (instantOf date).map some

/-- Claims from the fields of a payload: texts are checked first, then the
dates, the flag and the audience, and last the range of the dates. -/
def ofFields (fields : List (String × Value)) : Except ClaimsFault Claims := do
  let userId ← readText fields "user_id"
  let username ← readText fields "username"
  let userEmail ← readText fields "user_email"
  let issuer ← readText fields "iss"
  let tokenId ← readText fields "jti"
  let expiry? ← readDate fields "exp"
  let issued ← readDate fields "iat"
  let notBefore ← readDate fields "nbf"
  let expiry ← expiry?.elim (.error .expiryMissing) .ok
  let isAdmin ← readAdmin fields
  let audience ← readAudience fields
  let expiresAt ← instantOf expiry
  let issuedAt ← optionalInstant issued
  let notBefore ← optionalInstant notBefore
  return { expiresAt, userId, username, userEmail, isAdmin, audience, issuedAt, notBefore, issuer,
           tokenId }

/-- Claims from the payload of a token. -/
def ofPayload : Value → Except ClaimsFault Claims
  | .object fields => ofFields fields
  | _ => .error .notAnObject

/-! ### Writing -/

/-- What is left out of a payload. -/
def isEmptyClaim : Value → Bool
  | .null => true
  | .text s => s.isEmpty
  | .list items => items.isEmpty
  | _ => false

/-- An audience of one is written without a list. -/
def audienceValue : List String → Value
  | [name] => .text name
  | names => .list (names.map .text)

/-- A date in whole seconds. -/
def dateValue (t : Option Instant) : Value := (t.map fun t => Value.int t.seconds).getD .null

/-- The payload that carries the claims. -/
def payload (c : Claims) : List (String × Value) :=
  [("user_id", .text c.userId), ("username", .text c.username), ("user_email", .text c.userEmail),
    ("is_admin", .bool c.isAdmin), ("aud", audienceValue c.audience),
    ("exp", dateValue (some c.expiresAt)), ("iat", dateValue c.issuedAt),
    ("nbf", dateValue c.notBefore), ("iss", .text c.issuer), ("jti", .text c.tokenId)].filter
    fun field => !isEmptyClaim field.2

end Claims

end Guildhall
