/-
Guildhall/Gateway.lean

The gateway as one function: `respond` answers a request.  The path decides
the endpoint; the body is read by the schema of the endpoint, before anyone
asks who is calling; then the call passes the gate and the service answers
it.  A request that is turned away before the last step changes nothing.
-/
import Guildhall.Gateway.Endpoint
import Guildhall.Gateway.Gate

namespace Guildhall

open Journal (Context)

/-- The gateway in front of a service. -/
structure Gateway where
  gate : Gateway.Gate
  service : Service
  /-- The common beginning of all paths. -/
  start : String

namespace Gateway

/-- A request. -/
structure Request where
  method : String
  /-- Path and query as they are sent. -/
  target : String
  host : String := "localhost"
  authorization : Option String := none
  contentType : Option String := none
  body : List UInt8 := []
  /-- The id under which the request is logged. -/
  id : String := ""

/-! ### Routing -/

/-- Where a path leads. -/
inductive Route
  | found (e : Endpoint) (parameters : List String)
  /-- The path is there, but for another method. -/
  | otherMethod (method : String)
  /-- The path is there without the slashes at its end. -/
  | elsewhere (path : List Char)
  | nowhere
  deriving DecidableEq, Repr

/-- The endpoint of a method at a path, with its parameters. -/
def find? (g : Gateway) (method : String) (path : List Char) :
    Option (Endpoint × List String) :=
  Endpoint.all.findSome? fun e =>
    if e.method = method then (e.match? g.start path).map fun ps => (e, ps) else none

/-- The first endpoint at a path, of any method. -/
def findAny? (g : Gateway) (path : List Char) : Option Endpoint :=
  Endpoint.all.find? fun e => (e.match? g.start path).isSome

/-- Finds the way of a method and a path. -/
def route (g : Gateway) (method : String) (path : List Char) : Route :=
  match g.find? method path with
  | some (e, parameters) => .found e parameters
  | none =>
    match g.findAny? path with
    | some e => .otherMethod e.method
    | none =>
      let shorter := Target.withoutSlashes path
      if shorter ≠ path && (g.findAny? shorter).isSome then .elsewhere shorter else .nowhere

/-! ### Serving an endpoint -/

/-- The fields of the body that an endpoint asks for. -/
def fieldsOf (e : Endpoint) (r : Request) : Except Refusal (List (String × Value)) :=
  match e.schema? with
  | none => .ok []
  | some schema => readBody schema r.contentType r.body

/-- The call at the gate. -/
def entrant (e : Endpoint) (parameters : List String) (r : Request) : Entrant :=
  { operation := e.operation
    policy := e.policy
    authorization := if e.takesCredential then r.authorization else none
    subject := if e.isAboutUser then parameters.head? else none }

/-- The response to the end of a call, and the desk that it left. -/
def conclude (e : Endpoint) : EStateM.Result Stop Desk Answer → Response × Desk
  | .ok answer d => (.ok (e.shown answer), d)
  | .error stop d => (.ofStop stop, d)

/-- Serves an endpoint. -/
def serve (g : Gateway) (m : Moment) (e : Endpoint) (parameters : List String) (r : Request)
    (d : Desk) : Response × Desk :=
  match fieldsOf e r with
  | .error refusal => (.ofRefusal refusal, d)
  | .ok fields =>
    let handler (_ : Context) : Session Answer :=
      g.service.perform m (e.call parameters fields)
    conclude e (g.gate.run r.id m.now (entrant e parameters r) handler {} d).result

/-- Answers a request. -/
def respond (g : Gateway) (m : Moment) (r : Request) (d : Desk) : Response × Desk :=
  let target := Target.ofRaw r.target
  match g.route r.method target.path with
  | .found e parameters => g.serve m e parameters r d
  | .otherMethod method => (.methodNotAllowed method, d)
  | .elsewhere path => (.redirect (Target.address r.host path target.query), d)
  | .nowhere => (.notFound, d)

end Gateway

end Guildhall
