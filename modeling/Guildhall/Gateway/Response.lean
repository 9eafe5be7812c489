/-
Guildhall/Gateway/Response.lean

Responses.  A call that stops with a failure is answered with its category
and its message and nothing of its details; every other stop is answered
with one fixed message.  Responses must not be stored on their way; only
one that breaks out of the whole gateway does not say so.
-/
import Guildhall.Gateway.Body
import Guildhall.Stop

namespace Guildhall

/-! ### What a stop tells the outside -/

namespace Stop

/-- The failure behind a stop, if it is one. -/
def failure? : Stop → Option Failure
  | .failure f => some f
  | _ => none

/-- The category under which a stop is reported. -/
def category (stop : Stop) : Category := stop.failure?.elim .internal (·.category)

/-- How loudly a stop is reported. -/
def severity (stop : Stop) : Severity := stop.failure?.elim .error (·.severity)

/-- The message of a stop for the caller. -/
def publicMessage (stop : Stop) : String := stop.failure?.elim internalMessage (·.message)

/-- Whether a stop is foreseen by the gateway: a failure or an outage. -/
def isForeseen : Stop → Bool
  | .failure _ | .outage _ => true
  | _ => false

end Stop

namespace Gateway

/-- The answer to a request. -/
structure Response where
  status : Nat
  /-- Whether the response forbids to store it. -/
  forbidsStoring : Bool := true
  allow : Option String := none
  location : Option String := none
  body : Option Value := none
  deriving Repr

namespace Response

/-- The words that forbid to store a response. -/
def cacheControl : String := "no-cache, no-store, max-age=0, must-revalidate"

/-- The `Cache-Control` header of a response, if it has one. -/
def cacheHeader? (r : Response) : Option String :=
  if r.forbidsStoring then some cacheControl else none

/-- The body of an error. -/
def errorBody (code : String) (message : Value) : Value :=
  .object [("error", .object [("code", .text code), ("message", message)])]

/-- A result. -/
def ok (v : Value) : Response := { status := 200, body := some v }

/-- The response to a call that stopped. -/
def ofStop (stop : Stop) : Response :=
  { status := stop.category.status
    forbidsStoring := stop.isForeseen
    body := some (errorBody stop.category.code (.text stop.publicMessage)) }

/-- The response to a body that is refused. -/
def ofRefusal (r : Refusal) : Response :=
  { status := 400, body := some (errorBody r.code (.text r.message)) }

/-- The response to a path that leads nowhere. -/
def notFound : Response :=
  { status := 404, body := some (errorBody Category.notFound.code (.text "Not Found")) }

/-- The response to a path that is there for another method. -/
def methodNotAllowed (allowed : String) : Response :=
  { status := 405, allow := some allowed
    body := some (errorBody "METHOD_NOT_ALLOWED" (.text "Method Not Allowed")) }

/-- The response that sends the caller to another address. -/
def redirect (address : String) : Response := { status := 307, location := some address }

end Response

end Gateway

end Guildhall
