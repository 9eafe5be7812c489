/-
Guildhall/Failure.lean

What can be wrong with a request, as causes.  A failure belongs to a
category, has a severity, a message for the caller and details for the
logs; all four are functions of the cause, so the wording of every message
stands in this module.
-/
import Guildhall.Value

namespace Guildhall

open Number

/-! ### Categories and severities -/

/-- The category of a failure decides the status of the response. -/
inductive Category
  | unauthenticated
  | invalidArgument
  | notFound
  | internal
  | unimplemented
  | deadlineExceeded
  deriving DecidableEq, Repr

/-- The code that a response carries for a category. -/
def Category.code : Category → String
  | .unauthenticated => "UNAUTHENTICATED"
  | .invalidArgument => "INVALID_ARGUMENT"
  | .notFound => "NOT_FOUND"
  | .internal => "INTERNAL"
  | .unimplemented => "UNIMPLEMENTED"
  | .deadlineExceeded => "DEADLINE_EXCEEDED"

/-- The status of a response for a category. -/
def Category.status : Category → Nat
  | .unauthenticated => 401
  | .invalidArgument => 400
  | .notFound => 404
  | .internal => 500
  | .unimplemented => 501
  | .deadlineExceeded => 504

/-- How loudly a failure is logged. -/
inductive Severity
  | debug
  | info
  | warning
  | error
  | critical
  deriving DecidableEq, Repr

/-- The word for a severity. -/
def Severity.word : Severity → String
  | .debug => "debug"
  | .info => "info"
  | .warning => "warning"
  | .error => "error"
  | .critical => "critical"

/-- The severity of a word. -/
def Severity.ofWord? (w : String) : Option Severity :=
  [debug, info, warning, error, critical].find? (·.word == w)

/-- The severities at which somebody is woken up. -/
def Severity.alerts : Severity → Bool
  | .error | .critical => true
  | _ => false

/-! ### Causes -/

/-- Why a caller may not run an operation. -/
inductive Denial
  | invalidCredential
  | tokenExpired
  | privilegeRequired
  | notSelf
  | worded (reason : String)
  deriving DecidableEq, Repr

/-- The reason that is given to the caller. -/
def Denial.reason : Denial → String
  | .invalidCredential => "Authorization failed - invalid header/token"
  | .tokenExpired => "Authorization failed - token expired"
  | .privilegeRequired => "Authorization failed - high level access required"
  | .notSelf => "Not authorized for another user"
  | .worded reason => reason

/-- What is wrong with a field of the input. -/
inductive Complaint
  | required
  | notWhole
  | notWholeGot (v : Value)
  | below (least got : Int)
  | above (most got : Int)
  | empty
  | tooShort (least : Int)
  | tooLong (most : Int)
  | badEmail
  | totalTooLarge
  | badLogin
  | worded (message : String)
  deriving Repr

/-- The greatest total that a stored column holds, one less than 2^63. -/
def greatestStored : Int := 9223372036854775807

/-- The least number that a stored column holds, minus 2^63. -/
def leastStored : Int := -9223372036854775808

/-- The message of a complaint about a field. -/
def Complaint.message (field : String) : Complaint → String
  | .required => field ++ " is required"
  | .notWhole => field ++ " must be a whole number"
  | .notWholeGot v => field ++ " must be a whole number, got '" ++ v.display ++ "'"
  | .below least got =>
    field ++ " must be at least " ++ Text.Numeral.write least ++ ", got " ++ Text.Numeral.write got
  | .above most got =>
    field ++ " cannot exceed " ++ Text.Numeral.write most ++ ", got " ++ Text.Numeral.write got
  | .empty => field ++ " must not be empty"
  | .tooShort least => field ++ " must be at least " ++ Text.Numeral.write least ++ " characters"
  | .tooLong most => field ++ " cannot exceed " ++ Text.Numeral.write most ++ " characters"
  | .badEmail => "Invalid email address"
  | .totalTooLarge => field ++ " would exceed " ++ Text.Numeral.write greatestStored
  | .badLogin => "Invalid login/password"
  | .worded message => message

/-- What is taken already. -/
inductive Clash
  | userName
  | userEmail
  | user
  | itemNameAndType
  | itemImage
  | item
  | newsTitle
  | worded (resource message : String)
  deriving DecidableEq, Repr

/-- The kind of thing that is taken. -/
def Clash.resource : Clash → String
  | .userName | .userEmail | .user => "User"
  | .itemNameAndType | .itemImage | .item => "StoreItem"
  | .newsTitle => "News"
  | .worded resource _ => resource

/-- The message of a clash. -/
def Clash.message : Clash → String
  | .userName => "User with such name already exists"
  | .userEmail => "User with such email already exists"
  | .user => "User with such name or email already exists"
  | .itemNameAndType => "Item with such name and type already exists"
  | .itemImage => "Item with such image id already exists"
  | .item => "Item with such name, type or image id already exists"
  | .newsTitle => "News with such title already exists"
  | .worded _ message => message

/-- What a request can fail with. -/
inductive Failure
  /-- No usable credential, or one that may not run the operation. -/
  | unauthenticated (denial : Denial)
  | invalid (field : String) (complaint : Complaint)
  /-- The balance is below the price. -/
  | insufficient (resource : String) (required current : Quantity)
  | alreadyExists (clash : Clash)
  | notFound (resource : String) (identifier : Value)
  | internal (message : String) (details : List (String × Value))
  | unimplemented (operation message : String)
  | deadlineExceeded (operation : String) (timeout : Binary64)
  /-- A failure of no further kind. -/
  | general (message : String) (details : List (String × Value)) (severity : Severity)
  deriving Repr

namespace Failure

/-! ### What a failure says -/

/-- The name of the kind of failure. -/
def kind : Failure → String
  | .unauthenticated _ => "UnauthenticatedError"
  | .invalid .. => "ValidationError"
  | .insufficient .. => "InsufficientResourcesError"
  | .alreadyExists _ => "AlreadyExistsError"
  | .notFound .. => "NotFoundError"
  | .internal .. => "InternalError"
  | .unimplemented .. => "UnimplementedError"
  | .deadlineExceeded .. => "DeadlineExceededError"
  | .general .. => "MedievalDomainException"

/-- The category of a failure. -/
def category : Failure → Category
  | .unauthenticated _ => .unauthenticated
  | .invalid .. | .insufficient .. | .alreadyExists _ => .invalidArgument
  | .notFound .. => .notFound
  | .internal .. | .general .. => .internal
  | .unimplemented .. => .unimplemented
  | .deadlineExceeded .. => .deadlineExceeded

/-- The severity of a failure. -/
def severity : Failure → Severity
  | .unauthenticated _ | .deadlineExceeded .. => .warning
  | .invalid .. | .insufficient .. | .alreadyExists _ | .notFound .. => .info
  | .internal .. => .error
  | .unimplemented .. => .debug
  | .general _ _ severity => severity

/-- The message for the caller. -/
def message : Failure → String
  | .unauthenticated denial => denial.reason
  | .invalid field complaint => complaint.message field
  | .insufficient resource _ _ => "Not enough " ++ resource
  | .alreadyExists clash => clash.message
  | .notFound resource _ => resource ++ " not found"
  | .internal message _ => message
  | .unimplemented _ message => message
  | .deadlineExceeded operation timeout =>
    operation ++ " did not complete within " ++ String.ofList (timeout.general 6) ++ "s"
  | .general message _ _ => message

/-- The details for the logs. -/
def details : Failure → List (String × Value)
  | .unauthenticated _ => []
  | .invalid field _ => [("field", .text field)]
  | .insufficient _ required current =>
    [("required", .ofQuantity required), ("current", .ofQuantity current),
      ("deficit", ((required.minus? current).map .ofQuantity).getD .null)]
  | .alreadyExists clash => [("resource_type", .text clash.resource)]
  | .notFound _ identifier => [("identifier", identifier)]
  | .internal _ details => details
  | .unimplemented operation _ => [("operation", .text operation)]
  | .deadlineExceeded operation _ => [("operation", .text operation)]
  | .general _ details _ => details

/-- A failure as a log entry, with a message and details. -/
def entry (f : Failure) (message details : Value) : List (String × Value) :=
  [("type", .text f.kind), ("category", .text f.category.code), ("message", message),
    ("severity", .text f.severity.word), ("details", details)]

/-- A failure in one line, with a message. -/
def summary (f : Failure) (message : Value) : String :=
  f.kind ++ "(" ++ String.ofList message.literal ++ ", category=" ++ f.category.code ++ ")"

end Failure

/-- The message for an operation that is not part of the service yet. -/
def notOffered : String := "Non-MVP endpoint"

/-- The message for a failure whose cause stays in the logs. -/
def internalMessage : String := "Internal error"

end Guildhall
