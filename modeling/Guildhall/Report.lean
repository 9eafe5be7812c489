/-
Guildhall/Report.lean

Stops by name, made of named arguments, and what is reported of them: the
response, an entry for the logs and one line.  A report keeps the arguments
of its message and of its details as they were given, so it can also tell of
a message that is no text.  A kind that is open keeps the arguments that it
has no parameter for as details.
-/
import Guildhall.Gateway.Response
import Guildhall.Signature

namespace Guildhall

open Number

/-- A stop with its message and its details as they were given. -/
structure Report where
  stop : Stop
  message : Value
  details : Value

namespace Report

/-! ### What a report says -/

/-- The report of a failure. -/
def ofFailure (f : Failure) : Report := ⟨.failure f, .text f.message, .object f.details⟩

/-- The report of an outage. -/
def ofOutage (o : Outage) : Report := ⟨.outage o, .text o.message, .object o.details⟩

/-- The report of a breakdown. -/
def ofCrash : Report := ⟨.crash, .text internalMessage, .object []⟩

/-- The body of the response: the message of a failure, or the fixed one. -/
def body (r : Report) : Value :=
  Gateway.Response.errorBody r.stop.category.code
    (match r.stop with
      | .failure _ => r.message
      | stop => .text stop.publicMessage)

/-- The report as an entry for the logs. -/
def entry? (r : Report) : Option (List (String × Value)) :=
  match r.stop with
  | .failure f => some (f.entry r.message r.details)
  | .outage o => some (o.entryWith r.message r.details.fields)
  | _ => none

/-- The report in one line; only a failure has one. -/
def summary? (r : Report) : Option String :=
  r.stop.failure?.map (·.summary r.message)

/-! ### Reports by name -/

/-- Makes a report of the arguments without a parameter. -/
abbrev Maker := List (String × Value) → Except Stop Report

/-- The maker of a failure whose message was given. -/
def worded (f : Failure) (message : Value) : Maker := fun _ =>
  .ok { ofFailure f with message }

/-- The maker of a failure whose message and whose one detail were given. -/
def wordedOn (f : Failure) (message : Value) (name : String) (detail : Value) : Maker := fun _ =>
  .ok { ofFailure f with message, details := .object [(name, detail)] }

/-- The report of a balance that is below a price; both have to be quantities
that can be subtracted. -/
def insufficient (resource : String) (required current : Value) : Except Stop Report :=
  match required.quantity?, current.quantity? with
  | some price, some balance =>
    match price.minus? balance with
    | some deficit =>
      .ok { ofFailure (.insufficient resource price balance) with
        details := .object
          [("required", required), ("current", current), ("deficit", .ofQuantity deficit)] }
    | none => .error .overflow
  | _, _ => .error .badCall

/-- The report of a call that has not ended in time. -/
def deadlineExceeded (operation timeout : Value) : Except Stop Report :=
  match timeout.quantity? with
  | some limit =>
    match limit.toFloat? with
    | some x =>
      .ok { ofFailure (.deadlineExceeded operation.display x) with
        details := .object [("operation", operation)] }
    | none => .error .overflow
  | none =>
    match timeout with
    | .text _ => .error .unusable
    | _ => .error .badCall

/-- The report of a failure of no further kind; details that do not hold are
left out, and so may be the severity. -/
def general (message details severity : Value) : Except Stop Report :=
  let make (severity : Severity) : Report :=
    { ofFailure (.general message.display [] severity) with
      message, details := if details.holds then details else .object [] }
  match severity with
  | .null => .ok (make .error)
  | v => ((Severity.ofWord? v.display).map make).elim (.error .unusable) .ok

/-- The report of a setting that cannot be used; a hint that does not hold is
left out. -/
def configuration (key problem hint : Value) : Report :=
  let hint := if hint.holds then some hint.display else none
  { ofOutage (.configuration key.display problem.display hint) with
    details := .object [("config_key", key)] }

/-- The signature of every kind, by name. -/
def signatures : List (String × Signature Maker) :=
  [("UnauthenticatedError",
      { required := ["reason"]
        call := fun a =>
          worded (.unauthenticated (.worded (a "reason").display)) (a "reason") }),
    ("ValidationError",
      { required := ["field", "message"]
        call := fun a =>
          wordedOn (.invalid (a "field").display (.worded (a "message").display)) (a "message")
            "field" (a "field") }),
    ("InsufficientResourcesError",
      { required := ["resource", "required", "current"]
        call := fun a _ => insufficient (a "resource").display (a "required") (a "current") }),
    ("AlreadyExistsError",
      { required := ["resource_type", "message"]
        call := fun a =>
          wordedOn
            (.alreadyExists (.worded (a "resource_type").display (a "message").display))
            (a "message") "resource_type" (a "resource_type") }),
    ("NotFoundError",
      { required := ["resource_type"], optional := [("identifier", .null)]
        call := fun a _ =>
          .ok (ofFailure (.notFound (a "resource_type").display (a "identifier"))) }),
    ("InternalError",
      { optional := [("message", .text internalMessage)], isOpen := true
        call := fun a details =>
          worded (.internal (a "message").display details) (a "message") details }),
    ("UnimplementedError",
      { required := ["operation"], optional := [("message", .text notOffered)]
        call := fun a =>
          wordedOn (.unimplemented (a "operation").display (a "message").display) (a "message")
            "operation" (a "operation") }),
    ("DeadlineExceededError",
      { required := ["operation", "timeout_seconds"]
        call := fun a _ => deadlineExceeded (a "operation") (a "timeout_seconds") }),
    ("MedievalDomainException",
      { required := ["message"], optional := [("details", .null), ("severity", .null)]
        call := fun a _ => general (a "message") (a "details") (a "severity") }),
    ("MedievalInfrastructureException",
      { required := ["message"], isOpen := true
        call := fun a details =>
          .ok { ofOutage (.general (a "message").display details) with message := a "message" } }),
    ("ConfigurationError",
      { required := ["config_key", "problem"], optional := [("hint", .null)]
        call := fun a _ => .ok (configuration (a "config_key") (a "problem") (a "hint")) })]

/-- The report of a kind, made of arguments; a kind that has no name here is a
breakdown. -/
def ofNamed (kind : String) (args : List (String × Value)) : Except Stop Report :=
  match signatures.lookup kind with
  | none => .ok ofCrash
  | some s =>
    match s.callWith? args with
    | some make => make (s.extras args)
    | none => .error .badCall

end Report

end Guildhall
