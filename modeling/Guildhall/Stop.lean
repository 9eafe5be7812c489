/-
Guildhall/Stop.lean

Every way in which a call can end without a result.  Most calls stop with
a failure that the caller is meant to see; the other ways are a broken
deployment, a limit of the storage or of the calendar, a call that does not
fit its operation and, for a call that never ends on its own, hanging.
-/
import Guildhall.Failure

namespace Guildhall

/-- A broken deployment, of which the caller learns nothing. -/
inductive Outage
  /-- A setting that is missing or cannot be used. -/
  | configuration (key problem : String) (hint : Option String)
  | general (message : String) (details : List (String × Value))
  deriving Repr

namespace Outage

/-- The name of the kind of outage. -/
def kind : Outage → String
  | .configuration .. => "ConfigurationError"
  | .general .. => "MedievalInfrastructureException"

/-- The message for the logs. -/
def message : Outage → String
  | .configuration key problem hint =>
    let text := key ++ ": " ++ problem
    match hint with
    | some h => if h.isEmpty then text else text ++ " (" ++ h ++ ")"
    | none => text
  | .general message _ => message

/-- How loudly an outage is logged. -/
def severity : Outage → Severity
  | .configuration .. => .critical
  | .general .. => .error

/-- The details for the logs. -/
def details : Outage → List (String × Value)
  | .configuration key _ _ => [("config_key", .text key)]
  | .general _ details => details

/-- An outage as a log entry, with a message and details; a detail may replace
one of the first three fields. -/
def entryWith (o : Outage) (message : Value) (details : List (String × Value)) :
    List (String × Value) :=
  details.foldl (fun fields d => Value.put d.1 d.2 fields)
    [("type", .text o.kind), ("message", message), ("severity", .text o.severity.word)]

/-- An outage as a log entry. -/
def entry (o : Outage) : List (String × Value) := o.entryWith (.text o.message) o.details

end Outage

/-- Something that is asked for before it is there. -/
inductive Unready
  /-- The storage has not been opened. -/
  | storage
  /-- The services have not been started. -/
  | services
  /-- There is no address at which the storage could be opened. -/
  | address
  /-- The address leads to no storage that can be opened. -/
  | engine
  deriving DecidableEq, Repr

/-- What is missing, in words. -/
def Unready.message : Unready → String
  | .storage => "call DatabaseService.initialize() first"
  | .services => "ServiceContainer not initialized. Call initialize() first."
  | .address => "DATABASE_URL is empty"
  | .engine => "cannot create engine"

/-- Why a call ended without a result. -/
inductive Stop
  | failure (f : Failure)
  | outage (o : Outage)
  /-- A statement that the storage could not run. -/
  | storage
  /-- A server that does not answer. -/
  | unreachable
  /-- A row that would break a constraint. -/
  | integrity
  /-- A number beyond the storage, or a date or a time beyond the calendar. -/
  | overflow
  /-- A text that holds half a surrogate pair, where its bytes are needed. -/
  | unencodable
  /-- A path that no file can have, or a word that names something else than what
  is asked for. -/
  | unusable
  /-- A signing key that does not go with its algorithm. -/
  | keyRejected
  /-- A signing algorithm that is not known. -/
  | unknownAlgorithm
  /-- Arguments that do not fit the operation. -/
  | badCall
  /-- A value that an operation cannot use, with a message. -/
  | badValue (message : String)
  | notReady (u : Unready)
  /-- Settings with which no gateway can be set up. -/
  | misconfigured
  /-- Values that are nested too deeply to be read. -/
  | tooDeep
  /-- A value that is no text, where only a text will do. -/
  | noText
  /-- A breakdown inside the operation. -/
  | crash
  /-- The call does not end on its own. -/
  | hung
  deriving Repr

/-- Stops with a failure. -/
def fail {m : Type → Type} [MonadExceptOf Stop m] {α : Type} (f : Failure) : m α :=
  throw (.failure f)

end Guildhall
