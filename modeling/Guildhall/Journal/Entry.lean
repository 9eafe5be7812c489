/-
Guildhall/Journal/Entry.lean

Log entries and the two ways to write one: as one line of JSON, which holds
everything, and as one line of text, which is pleasant to read.  An entry
may carry extra values by name.  One that has the name of an attribute of
the entry takes its place; all others are shown as fields.
-/
import Guildhall.Calendar
import Guildhall.Journal.Context
import Guildhall.Journal.Level
import Guildhall.Journal.Template
import Guildhall.Json.Writer

namespace Guildhall.Journal

open Number

/-- An entry of the log. -/
structure Entry where
  message : Value
  args : Option (List Value) := none
  level : Level := .info
  logger : String
  /-- The path of the file that the entry is from. -/
  path : String := "mod.py"
  line : Int := 1
  function : String := "f"
  created : Instant
  /-- Extra values, in the order in which they were given. -/
  extra : Fields := []
  /-- The kind and the text of an exception. -/
  exception : Option (String × String) := none

/-! ### Attributes -/

/-- The fields that an entry has from its context. -/
def contextNames : List String := ["request_id", "operation", "endpoint", "user_id", "component"]

/-- The text of a context field without a value. -/
def unsetText : String := "-"

/-- The names of the attributes that every entry has. -/
def attributeNames : List String :=
  ["name", "msg", "args", "levelname", "levelno", "pathname", "filename", "module", "exc_info",
    "exc_text", "stack_info", "lineno", "funcName", "created", "msecs", "relativeCreated",
    "thread", "threadName", "processName", "process", "message", "asctime"]

/-- What is after the last slash of a path. -/
def baseName (path : List Char) : List Char := (path.reverse.takeWhile (· != '/')).reverse

/-- A file name without its last extension; points at the beginning begin no
extension. -/
def withoutExtension (name : List Char) : List Char :=
  let points := name.takeWhile (· == '.')
  let rest := name.dropWhile (· == '.')
  if rest.contains '.' then
    points ++ ((rest.reverse.dropWhile (· != '.')).drop 1).reverse
  else name

namespace Entry

/-- The name of the module that an entry is from. -/
def moduleName (e : Entry) : String := String.ofList (withoutExtension (baseName e.path.toList))

/-- Extra values under different names; the last one of a name counts. -/
def extras (e : Entry) : Fields := Fields.add e.extra []

/-- An attribute of an entry, unless an extra value takes its place. -/
def property (e : Entry) (name : String) (own : Value) : Value :=
  (e.extras.lookup name).getD own

/-- An entry with the fields of its context; extra values come first. -/
def inContext (c : Context) (e : Entry) : Entry :=
  { e with
    extra := e.extra ++ (contextNames.filter fun name => (e.extras.lookup name).isNone).map
      fun name => (name, (c.current.lookup name).getD (.text unsetText)) }

/-- The context field of a name: unset if there is none. -/
def contextField (e : Entry) (name : String) : Value := e.property name (.text unsetText)

/-! ### The message -/

/-- What the template of a message is filled with; nothing if there is nothing
to fill in. -/
def arguments (e : Entry) : Option Arguments :=
  match e.extras.lookup "args", e.args with
  | some v, _ => if v.holds then some (.one v) else none
  | none, none | none, some [] => none
  | none, some [.object (field :: fields)] => some (.one (.object (field :: fields)))
  | none, some vs => some (.row vs)

/-- The message, with its arguments filled in. -/
def filled (e : Entry) : Except Fault String :=
  let template := (e.property "msg" e.message).display
  match e.arguments with
  | none => .ok template
  | some args => fill template args

/-- The name under which an entry is asked for its message. -/
def messageName : String := "getMessage"

/-- The message as an entry tells it.  An extra value that has the name under which it is
asked for takes its place, and no value can be asked. -/
def text (e : Entry) : Except Fault String :=
  if (e.extras.lookup messageName).isSome then .error .mismatch else e.filled

/-! ### One line of JSON -/

/-- The instant of a number of microseconds, if a clock can count its seconds and
tell its year and the calendar has it. -/
def instantOf (micros : Int) : Except Fault Instant :=
  let seconds := micros / 1000000
  if !Instant.isCount seconds then .error .tooLarge
  else if !Instant.hasYear seconds then .error .yearTooLarge
  else (Instant.ofMicros? micros).elim (.error .malformed) .ok

/-- The instant of a number of seconds. -/
def readTime : Value → Except Fault Instant
  | .float (.infinite _) => .error .tooLarge
  | .float x => (Instant.floatMicros? x).elim (.error .malformed) instantOf
  | .int n => instantOf (n * 1000000)
  | .bool b => instantOf (if b then 1000000 else 0)
  | _ => .error .mismatch

/-- The instant of an entry, as far as a floating-point number of seconds can
tell it. -/
def time (e : Entry) : Except Fault Instant :=
  readTime (e.property "created"
    (.float (Binary64.ofRatio (e.created.micros < 0) e.created.micros.natAbs 1000000)))

/-- Where an entry is from: module, function and line. -/
def source (e : Entry) : String :=
  (e.property "module" (.text e.moduleName)).display ++ ":" ++
    (e.property "funcName" (.text e.function)).display ++ ":" ++
      (e.property "lineno" (.int e.line)).display

/-- Whether a context field is worth showing. -/
def isSet : Value → Bool
  | .text s => s != unsetText
  | _ => true

/-- Whether an extra value is shown as a field. -/
def isField (name : String) : Bool :=
  !attributeNames.contains name && !contextNames.contains name && name.toList.head? != some '_'

/-- The context fields that are worth showing. -/
def shownContext (e : Entry) : Fields :=
  (contextNames.map fun name => (name, e.contextField name)).filter fun f => isSet f.2

/-- The extra values that are shown as fields. -/
def shownExtras (e : Entry) : Fields := e.extras.filter fun f => isField f.1

/-- An exception in one line; the text of a failed lookup is shown in quotes. -/
def exceptionText (kind message : String) : String :=
  let text := if kind = "KeyError" then Text.quote message else message
  if text.isEmpty then kind else kind ++ ": " ++ text

/-- What is shown of a value that stands in the place of an exception: only a row
of at least three, of which the second and the third are null, shows anything. -/
def standInText : Value → Except Fault String
  | .list (_ :: .null :: .null :: _) => .ok "NoneType: None"
  | .list (_ :: _ :: _ :: _) => .error .missingPart
  | .list _ => .error .missingItem
  | .text s => .error (if s.length < 3 then .missingItem else .missingPart)
  | .bytes b => .error (if b.length < 3 then .missingItem else .missingPart)
  | .object _ => .error .missingField
  | _ => .error .mismatch

/-- The text of the exception of an entry, if there is one. -/
def shownException (e : Entry) : Except Fault (Option String) :=
  match e.extras.lookup "exc_info" with
  | none => .ok (e.exception.map fun (kind, message) => exceptionText kind message)
  | some v => if v.holds then (standInText v).map some else .ok none

/-- Everything that an entry says. -/
def payload (e : Entry) : Except Fault Fields := do
  let time ← e.time
  let text ← e.text
  let exception ← e.shownException
  return [("ts", .text time.isoUtc),
      ("level", e.property "levelname" (.text e.level.word)),
      ("logger", e.property "name" (.text e.logger)), ("msg", .text text),
      ("src", .text e.source)] ++ e.shownContext ++
    (if e.shownExtras.isEmpty then [] else [("fields", .object e.shownExtras)]) ++
    (exception.map fun text => ("exc", .text text)).toList

/-- An entry as one line of JSON. -/
def jsonLine (e : Entry) : Except Fault String :=
  e.payload.map fun fields => Json.write Json.spaced (.object fields)

/-! ### One line of text -/

/-- A text with blanks after it, up to a width. -/
def fillRight (width : Nat) (s : String) : String :=
  s ++ String.ofList (List.replicate (width - s.length) ' ')

/-- An entry as one line of text. -/
def textLine (e : Entry) : Except Fault String := do
  let text ← e.text
  let time := e.created.wholeSecond.isoChars.map fun c => if c = 'T' then ' ' else c
  let field (name : String) := (e.contextField name).display
  return String.ofList time ++ " " ++
    fillRight 8 (e.property "levelname" (.text e.level.word)).display ++ " " ++
    (e.property "name" (.text e.logger)).display ++ " [" ++ field "request_id" ++ " " ++
    field "operation" ++ " user=" ++ field "user_id" ++ "] " ++ text

end Entry

end Guildhall.Journal
