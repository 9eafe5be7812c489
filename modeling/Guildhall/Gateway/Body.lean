/-
Guildhall/Gateway/Body.lean

What a request carries.  A schema lists the fields of a body; reading a body
by its schema gives every field a value of its kind, or refuses the body
with the first thing that is wrong with it.  Reading is liberal: a number
may be written as a text, a truth value as a number or a word.  Fields that
are in no schema are left alone.
-/
import Guildhall.Failure
import Guildhall.Json.Reader
import Guildhall.Text.Encoding
import Guildhall.Text.Part
import Guildhall.Text.Upper

namespace Guildhall.Gateway

open Number

/-! ### Refusals -/

/-- What is wrong with one field. -/
inductive FieldProblem
  | missing
  | notText
  /-- A text with half a surrogate pair, where its bytes are read. -/
  | notUnicode
  | notNumber
  | notFinite
  | hasFraction
  | numberTooLarge
  | numberUnreadable
  | notFlag
  | flagUnreadable
  deriving DecidableEq, Repr

/-- The problem in words. -/
def FieldProblem.message : FieldProblem → String
  | .missing => "Field required"
  | .notText => "Input should be a valid string"
  | .notUnicode => "Input should be a valid string, unable to parse raw data as a unicode string"
  | .notNumber => "Input should be a valid integer"
  | .notFinite => "Input should be a finite number"
  | .hasFraction => "Input should be a valid integer, got a number with a fractional part"
  | .numberTooLarge => "Unable to parse input string as an integer, exceeded maximum size"
  | .numberUnreadable =>
    "Input should be a valid integer, unable to parse string as an integer"
  | .notFlag => "Input should be a valid boolean"
  | .flagUnreadable => "Input should be a valid boolean, unable to interpret input"

/-- Why a body is refused. -/
inductive Refusal
  /-- The bytes are no text, or hold a number of too many digits or values that
  are nested too deeply. -/
  | unreadable
  /-- The text is not JSON from a place on. -/
  | notJson (position : Nat)
  | missing
  | notAnObject
  | field (name : String) (problem : FieldProblem)
  deriving DecidableEq, Repr

namespace Refusal

/-- The message for the caller. -/
def message : Refusal → String
  | .unreadable => "There was an error parsing the body"
  | .notJson position => Text.Numeral.write position ++ ": JSON decode error"
  | .missing => "Field required"
  | .notAnObject => "Input should be a valid dictionary or object to extract fields from"
  | .field name problem => name ++ ": " ++ problem.message

/-- The code that the response carries. -/
def code : Refusal → String
  | .unreadable => "HTTP_ERROR"
  | _ => Category.invalidArgument.code

end Refusal

/-! ### Values of one kind -/

/-- What a field holds. -/
inductive Kind
  | text
  | number
  | flag
  deriving DecidableEq, Repr

/-- The words for a truth value, in lower case. -/
def flagWord? (s : String) : Option Bool :=
  let word := Text.lower s
  if ["1", "t", "y", "yes", "true", "on"].contains word then some true
  else if ["0", "f", "n", "no", "false", "off"].contains word then some false
  else none

/-- Whether a whole number is within 64 bits. -/
def isSmall (n : Int) : Bool := leastStored ≤ n && n ≤ greatestStored

/-- Whether the whole part of a float is inside the range of 64 bits. -/
def isInside (n : Int) : Bool := leastStored < n && n ≤ greatestStored

/-- The whole number that a float is. -/
def wholeFloat (x : Binary64) : Except FieldProblem Int :=
  match x.truncate? with
  | none => .error .notFinite
  | some n =>
    if !x.isWhole then .error .hasFraction
    else if isInside n then .ok n
    else .error .numberTooLarge

/-- Whether a numeral without zeros in front may begin with a character. -/
def beginsNumeral (c : Char) : Bool := (c.isDigit && c != '0') || c == '-'

/-- A numeral after some zeros, of which the last one may be an underscore.  One
that consists of them, or goes on with a point, keeps the last one. -/
def afterZeros (last : Char) : List Char → Option (List Char)
  | [] => some [last]
  | c :: rest =>
    if c == '0' || c == '_' then afterZeros c rest
    else if c == '.' then some (last :: c :: rest)
    else if beginsNumeral c then some (c :: rest)
    else none

/-- A numeral without the zeros in front of it. -/
def dropLeadingZeros : List Char → Option (List Char)
  | [] => none
  | c :: rest =>
    if c == '0' then afterZeros c rest
    else if beginsNumeral c then some (c :: rest)
    else none

/-- Drops a point with zeros after it. -/
def dropZeroFraction (cs : List Char) : List Char :=
  let zeros := (cs.reverse.takeWhile (· == '0')).length
  match cs.reverse.drop zeros with
  | '.' :: whole => if zeros = 0 then cs else whole.reverse
  | _ => cs

/-- A numeral without its underscores, which stand alone and not at an end. -/
def dropUnderscores (cs : List Char) : Option (List Char) :=
  if cs.head? == some '_' || cs.getLast? == some '_' || Text.holdsChars ['_', '_'] cs then none
  else some (cs.filter (· != '_'))

/-- The digits of a numeral, after its minus sign if there is one. -/
def digitsOf? (cs : List Char) : Option (List Char) := do
  let cs := Text.trimBy Text.isNumeralBlank cs
  let cs ← match cs with
    | '+' :: '-' :: _ => none
    | '+' :: rest => some rest
    | cs => some cs
  dropUnderscores (dropZeroFraction (← dropLeadingZeros cs))

/-- The number of ASCII digits. -/
def ofDigits (ds : List Char) : Except FieldProblem Int :=
  let (value, count, rest) := Binary64.readDigits 0 0 ds
  if count = 0 || !rest.isEmpty then .error .numberUnreadable else .ok value

/-- The whole number that a text stands for. -/
def numeral (s : String) : Except FieldProblem Int :=
  match digitsOf? s.toList with
  | none => .error .numberUnreadable
  | some cs =>
    if cs.length > Text.Numeral.digitLimit then .error .numberTooLarge
    else
      match cs with
      | '-' :: ds => (ofDigits ds).map (- ·)
      | ds => ofDigits ds

/-- A value as a number. -/
def readNumber : Value → Except FieldProblem Int
  | .int n => .ok n
  | .bool b => .ok (if b then 1 else 0)
  | .float x => wholeFloat x
  | .text s => numeral s
  | .torn _ => .error .notUnicode
  | _ => .error .notNumber

/-- A small number as a truth value. -/
def flagOfNumber (n : Int) : Except FieldProblem Bool :=
  if n = 0 then .ok false else if n = 1 then .ok true else .error .flagUnreadable

/-- A value as a truth value. -/
def readFlag : Value → Except FieldProblem Bool
  | .bool b => .ok b
  | .int n => if isSmall n then flagOfNumber n else .error .notFlag
  | .float x =>
    match wholeFloat x with
    | .ok n => flagOfNumber n
    | .error _ => .error .notFlag
  | .text s => (flagWord? s).elim (.error .flagUnreadable) .ok
  | .torn _ => .error .notUnicode
  | _ => .error .notFlag

/-- A value as one of a kind. -/
def Kind.read : Kind → Value → Except FieldProblem Value
  | .text, .text s => .ok (.text s)
  | .text, .torn s => .ok (.torn s)
  | .text, _ => .error .notText
  | .number, v => (readNumber v).map .int
  | .flag, v => (readFlag v).map .bool

/-! ### Schemas -/

/-- What a schema says of a field. -/
structure FieldRule where
  name : String
  kind : Kind
  /-- What a missing field counts as; if there is nothing, it is required. -/
  fallback : Option Value
  /-- Whether the field may be null. -/
  nullable : Bool

/-- The fields of a body, in order. -/
abbrev Schema := List FieldRule

namespace FieldRule

/-- A field that has to be there. -/
def required (name : String) (kind : Kind) : FieldRule := ⟨name, kind, none, false⟩

/-- A field with a value of its own if it is missing. -/
def optional (name : String) (kind : Kind) (fallback : Value) : FieldRule :=
  ⟨name, kind, some fallback, false⟩

/-- A field that may be missing or null. -/
def nullableField (name : String) (kind : Kind) : FieldRule := ⟨name, kind, some .null, true⟩

/-- The value of a field among those of a body. -/
def read (rule : FieldRule) (fields : List (String × Value)) :
    Except Refusal (String × Value) :=
  match fields.lookup rule.name, rule.fallback with
  | none, none => .error (.field rule.name .missing)
  | none, some fallback => .ok (rule.name, fallback)
  | some v, _ =>
    match v, rule.nullable with
    | .null, true => .ok (rule.name, .null)
    | v, _ =>
      match rule.kind.read v with
      | .ok read => .ok (rule.name, read)
      | .error problem => .error (.field rule.name problem)

end FieldRule

/-- The fields of a body by a schema, the first problem in its order. -/
def Schema.read (schema : Schema) (fields : List (String × Value)) :
    Except Refusal (List (String × Value)) :=
  schema.mapM fun rule => rule.read fields

/-! ### Bodies -/

/-- The white space in headers, which are bytes. -/
def isHeaderBlank (c : Char) : Bool := Text.isBlank c && c.toNat < 0x80

/-- Whether a content type means JSON. -/
def isJsonType (contentType : String) : Bool :=
  let value := Text.trimBy isHeaderBlank (contentType.toList.takeWhile (· != ';'))
  let kind := value.map Char.toLower
  let main := kind.takeWhile (· != '/')
  match kind.drop main.length with
  | '/' :: sub =>
    main == "application".toList && !sub.contains '/' &&
      (sub == "json".toList || "+json".toList.isSuffixOf sub)
  | _ => false

/-- The value of a JSON body. -/
def readJson (bytes : List UInt8) : Except Refusal Value :=
  match Text.decodeAny? bytes with
  | none => .error .unreadable
  | some (cs, torn) =>
    match Json.readDecoded cs torn with
    | .ok v => .ok v
    | .error (.stopped rest) => .error (.notJson (cs.length - rest.length))
    | .error .tooManyDigits | .error .tooDeep => .error .unreadable

/-- The fields of a body by a schema. -/
def readBody (schema : Schema) (contentType : Option String) (bytes : List UInt8) :
    Except Refusal (List (String × Value)) :=
  if bytes.isEmpty then .error .missing
  else if !contentType.any isJsonType then .error .notAnObject
  else do
    match ← readJson bytes with
    | .object fields => schema.read fields
    | _ => .error .notAnObject

end Guildhall.Gateway
