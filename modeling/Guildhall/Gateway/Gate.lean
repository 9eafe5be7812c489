/-
Guildhall/Gateway/Gate.lean

The gate that every call passes before it reaches the service: the bearer
token, its claims, the policy of the operation and last the deadline.
`Gate.run` starts the work of a call only if the gate admits it and there
is time left, and at most once.  Everything happens in a scope of the log
context, which is left again however the call ends.
-/
import Guildhall.Bearer
import Guildhall.Journal.Context
import Guildhall.Policy
import Guildhall.Token

namespace Guildhall.Gateway

open Journal Number

/-- A call that wants to pass the gate. -/
structure Entrant where
  operation : String
  policy : Policy
  /-- The `Authorization` header. -/
  authorization : Option String
  /-- Whom the call is about. -/
  subject : Option String

/-- The time that a call has. -/
inductive Deadline
  /-- As long as it takes. -/
  | never
  | seconds (x : Binary64)
  /-- A number of seconds beyond all floating-point numbers. -/
  | beyond
  /-- No number of seconds. -/
  | unusable
  deriving DecidableEq, Repr

namespace Deadline

/-- The deadline of a whole number of seconds. -/
def ofInt (n : Int) : Deadline :=
  match Binary64.ofInt n with
  | .infinite _ => .beyond
  | x => .seconds x

/-- The deadline that a value says. -/
def ofValue : Value → Deadline
  | .null => .never
  | .bool b => .ofInt (if b then 1 else 0)
  | .int n => .ofInt n
  | .float x => .seconds x
  | _ => .unusable

/-- Whether a time is over before it starts. -/
def isOver : Binary64 → Bool
  | .nan => false
  | .infinite negative => negative
  | .finite negative m _ => negative || m == 0

/-- Why an operation is not even started, if it is not. -/
def obstacle? (operation : String) : Deadline → Option Stop
  | .never => none
  | .seconds x => if isOver x then some (.failure (.deadlineExceeded operation x)) else none
  | .beyond => some .overflow
  | .unusable => some .badCall

/-- How an operation ends that does not end on its own: an infinite time is never over. -/
def expiry (operation : String) : Deadline → Stop
  | .seconds (.infinite _) => .hung
  | .seconds x => .failure (.deadlineExceeded operation x)
  | _ => .hung

end Deadline

/-- How the gate decides. -/
structure Gate where
  decoder : Token.Decoder
  deadline : Deadline

namespace Gate

/-! ### Admission -/

/-- The claims of a caller.  Whatever is wrong with the token, the caller learns
only that it is no good; where the library breaks down, so does the call. -/
def authenticate (gate : Gate) (authorization : Option String) : Except Stop Claims :=
  match Bearer.credential authorization with
  | .error denial => fail (.unauthenticated denial)
  | .ok token =>
    match Token.decode gate.decoder token with
    | .ok claims => .ok claims
    | .error fault =>
      if gate.decoder.breaksAt fault then throw .tooDeep
      else fail (.unauthenticated .invalidCredential)

/-- The context in which a known caller is served. -/
def identify (claims : Claims) (c : Context) : Context :=
  if claims.userId.isEmpty then c else c.assign [("user_id", .text claims.userId)]

/-- Whether a call may go on, and the context in which it does. -/
def screen (gate : Gate) (now : Instant) (e : Entrant) (c : Context) :
    Except Stop Unit × Context :=
  if e.policy = .everyone then (.ok (), c)
  else
    match gate.authenticate e.authorization with
    | .error stop => (.error stop, c)
    | .ok claims =>
      (e.policy.enforce (some claims) e.subject (some e.operation) now, identify claims c)

/-! ### Running a call -/

/-- What a call did. -/
structure Trace (σ α : Type) where
  /-- How it ended, and the state that it left. -/
  result : EStateM.Result Stop σ α
  /-- The context in which its work was started, if it was. -/
  seen : Option Context
  /-- The context after the call. -/
  after : Context

/-- The fields of the scope of a call. -/
def scopeOf (e : Entrant) : Fields :=
  [("endpoint", .text e.operation), ("operation", .text e.operation), ("component", .text "api")]

/-- Starts work and stops it at the deadline. -/
def work {σ α : Type} (gate : Gate) (e : Entrant) (handler : Context → EStateM Stop σ α)
    (c : Context) (s : σ) : EStateM.Result Stop σ α :=
  match handler c s with
  | .error .hung s => .error (gate.deadline.expiry e.operation) s
  | result => result

/-- Runs a call. -/
def run {σ α : Type} (gate : Gate) (requestId : String) (now : Instant) (e : Entrant)
    (handler : Context → EStateM Stop σ α) (c : Context) (s : σ) : Trace σ α :=
  match gate.screen now e (c.enter requestId (scopeOf e)) with
  | (.error stop, scope) => { result := .error stop s, seen := none, after := scope.leave }
  | (.ok (), scope) =>
    match gate.deadline.obstacle? e.operation with
    | some stop => { result := .error stop s, seen := none, after := scope.leave }
    | none => { result := gate.work e handler scope s, seen := some scope, after := scope.leave }

end Gate

end Guildhall.Gateway
