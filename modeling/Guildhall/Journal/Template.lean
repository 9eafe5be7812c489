/-
Guildhall/Journal/Template.lean

Message templates.  A template is text with conversions: a percent sign,
perhaps the name of a field in parentheses, flags, a width, a precision and
a letter that says how a value is written.  `pieces` takes a template
apart and `fill` writes it with its arguments, which must be as many as the
conversions ask for.
-/
import Guildhall.Text.Upper
import Guildhall.Value

namespace Guildhall.Journal

open Number Text.Numeral

/-- Why an entry of the log cannot be written. -/
inductive Fault
  /-- Arguments of the wrong kind, too few or too many. -/
  | mismatch
  /-- A template that is broken in itself, or a time beyond the calendar. -/
  | malformed
  /-- A named field that is not there. -/
  | missingField
  /-- An item beyond the end of a row. -/
  | missingItem
  /-- A part that a value of its kind does not have. -/
  | missingPart
  /-- A number that no conversion can write and no clock can count. -/
  | tooLarge
  /-- A time in a year that has too many digits. -/
  | yearTooLarge
  deriving DecidableEq, Repr

/-! ### Pieces -/

/-- A width or a precision. -/
inductive Extent
  | none
  | given (n : Nat)
  /-- It is taken from the arguments. -/
  | asked
  deriving DecidableEq, Repr

/-- Which value a conversion writes. -/
inductive Source
  | next
  | field (name : String)
  /-- A name in parentheses that are not closed. -/
  | unclosed
  deriving DecidableEq, Repr

/-- How one value is written. -/
structure Conversion where
  source : Source := .next
  /-- Fill on the right. -/
  left : Bool := false
  /-- What stands in place of a minus sign. -/
  plus : List Char := []
  /-- Fill with zeros. -/
  zero : Bool := false
  /-- Mark the base of the number. -/
  marked : Bool := false
  width : Extent := .none
  precision : Extent := .none
  /-- Nothing if the template ends before it. -/
  letter : Option Char := none
  deriving DecidableEq, Repr

/-- A part of a template. -/
inductive Piece
  | plain (c : Char)
  | conversion (v : Conversion)
  deriving DecidableEq, Repr

/-- The name in parentheses at the beginning of a text, after the first one;
parentheses inside are balanced. -/
def fieldName (depth : Nat) : List Char → Option (List Char × List Char)
  | [] => none
  | ')' :: rest =>
    if depth = 0 then some ([], rest)
    else (fieldName (depth - 1) rest).map fun (name, after) => (')' :: name, after)
  | c :: rest =>
    (fieldName (if c = '(' then depth + 1 else depth) rest).map fun (name, after) =>
      (c :: name, after)

/-- A conversion with a flag, if the character is one. -/
def addFlag (v : Conversion) (c : Char) : Option Conversion :=
  if c = '-' then some { v with left := true }
  else if c = '+' then some { v with plus := ['+'] }
  else if c = ' ' then some { v with plus := if v.plus = ['+'] then ['+'] else [' '] }
  else if c = '0' then some { v with zero := true }
  else if c = '#' then some { v with marked := true }
  else none

/-- Reads flags. -/
def readFlags (v : Conversion) : List Char → Conversion × List Char
  | [] => (v, [])
  | c :: rest =>
    match addFlag v c with
    | some flagged => readFlags flagged rest
    | none => (v, c :: rest)

/-- Reads a width or a precision: an asterisk or digits. -/
def readExtent (empty : Extent) : List Char → Extent × List Char
  | '*' :: rest => (.asked, rest)
  | cs =>
    let (value, count, rest) := Binary64.readDigits 0 0 cs
    (if count = 0 then empty else .given value, rest)

/-- Reads the source of a conversion. -/
def readSource : List Char → Source × List Char
  | '(' :: rest =>
    match fieldName 0 rest with
    | some (name, after) => (.field (String.ofList name), after)
    | none => (.unclosed, [])
  | cs => (.next, cs)

/-- Drops a letter that says nothing. -/
def dropSize : List Char → List Char
  | 'h' :: rest | 'l' :: rest | 'L' :: rest => rest
  | cs => cs

/-- Reads a conversion after its percent sign. -/
def readConversion (cs : List Char) : Conversion × List Char :=
  let (source, cs) := readSource cs
  let (v, cs) := readFlags { source } cs
  let (width, cs) := readExtent .none cs
  let (precision, cs) := match cs with
    | '.' :: rest => readExtent (.given 0) rest
    | cs => (.none, cs)
  match dropSize cs with
  | letter :: rest => ({ v with width, precision, letter := some letter }, rest)
  | [] => ({ v with width, precision }, [])

/-- Takes a template apart; `room` bounds the number of pieces. -/
def piecesWithin : (room : Nat) → List Char → List Piece
  | 0, _ => []
  | _, [] => []
  | room + 1, '%' :: '%' :: rest => .plain '%' :: piecesWithin room rest
  | room + 1, '%' :: rest =>
    let (v, rest) := readConversion rest
    .conversion v :: piecesWithin room rest
  | room + 1, c :: rest => .plain c :: piecesWithin room rest

/-- The pieces of a template. -/
def pieces (cs : List Char) : List Piece := piecesWithin cs.length cs

/-! ### Arguments -/

/-- What a template is filled with. -/
inductive Arguments
  | row (vs : List Value)
  /-- One value, which may also be asked for its fields. -/
  | one (v : Value)
  deriving Repr

/-- The arguments that are still to be used. -/
inductive Pending
  | row (vs : List Value)
  | one (v : Value)
  | used
  deriving Repr

/-- The next argument. -/
def takeNext : Pending → Except Fault (Value × Pending)
  | .row (v :: rest) => .ok (v, .row rest)
  | .one v => .ok (v, .used)
  | .row [] | .used => .error .mismatch

/-- The value of a named field of the arguments. -/
def takeField (args : Arguments) (name : String) : Except Fault Value :=
  match args with
  | .one (.object fields) => (fields.lookup name).elim (.error .missingField) .ok
  | _ => .error .mismatch

/-- Whether arguments may be left over. -/
def mayRemain : Arguments → Bool
  | .one (.object _) | .one (.list _) | .one (.bytes _) => true
  | _ => false

/-- Whether no argument is left over. -/
def isExhausted : Pending → Bool
  | .row rest => rest.isEmpty
  | .one _ => false
  | .used => true

/-! ### Writing one value -/

/-- The text that fills a place. -/
structure Filling where
  sign : List Char := []
  mark : List Char := []
  body : List Char
  /-- Whether zeros may stand in front. -/
  isNumber : Bool := false

/-- A filling in its width. -/
def Filling.padded (f : Filling) (v : Conversion) (width : Nat) (left : Bool) : List Char :=
  let missing := width - (f.sign.length + f.mark.length + f.body.length)
  let text := f.sign ++ f.mark ++ f.body
  if left then text ++ List.replicate missing ' '
  else if v.zero && f.isNumber then f.sign ++ f.mark ++ List.replicate missing '0' ++ f.body
  else List.replicate missing ' ' ++ text

/-- A text, cut to the precision. -/
def textFilling (cs : List Char) (precision : Option Nat) : Filling :=
  { body := precision.elim cs cs.take }

/-- A character in ASCII, escaped if need be. -/
def escapeBeyondAscii (c : Char) : List Char :=
  if c.toNat < 0x80 then [c] else Text.numberEscape c.toNat

/-- The digits of a number in a base up to sixteen. -/
def baseDigits (base : Nat) (n : Nat) : List Char :=
  Nat.toDigits base n

/-- A whole number with its sign and its digits. -/
def numberFilling (v : Conversion) (precision : Option Nat) (base : Nat) (n : Int) : Filling :=
  let digits := if base = 10 then natDigits n.natAbs else baseDigits base n.natAbs
  let body := List.replicate (precision.getD 1 - digits.length) '0' ++ digits
  let upper := v.letter = some 'X'
  { sign := if n < 0 then ['-'] else v.plus
    mark :=
      if !v.marked || base = 10 then []
      else if base = 8 then ['0', 'o']
      else if upper then ['0', 'X'] else ['0', 'x']
    body := if upper then body.map Char.toUpper else body
    isNumber := true }

/-- A written number, parted into its sign and the rest. -/
def signedFilling (v : Conversion) (cs : List Char) : Filling :=
  match cs with
  | '-' :: rest => { sign := ['-'], body := rest, isNumber := true }
  | cs => { sign := v.plus, body := cs, isNumber := true }

/-- The whole number for a decimal conversion; a fraction is cut off. -/
def wholeOf : Value → Except Fault Int
  | .int n => .ok n
  | .bool b => .ok (if b then 1 else 0)
  | .float (.infinite _) => .error .tooLarge
  | .float x => x.truncate?.elim (.error .malformed) .ok
  | _ => .error .mismatch

/-- The whole number for a conversion to another base. -/
def exactWholeOf : Value → Except Fault Int
  | .int n => .ok n
  | .bool b => .ok (if b then 1 else 0)
  | _ => .error .mismatch

/-- The number for a conversion with a point. -/
def floatOf : Value → Except Fault Binary64
  | .float x => .ok x
  | .bool b => .ok (Binary64.ofInt (if b then 1 else 0))
  | .int n =>
    match Binary64.ofInt n with
    | .infinite _ => .error .tooLarge
    | x => .ok x
  | _ => .error .mismatch

/-- The character for a conversion to one. -/
def characterOf : Value → Except Fault Char
  | .text s =>
    match s.toList with
    | [c] => .ok c
    | _ => .error .mismatch
  | .int n =>
    if 0 ≤ n && n < 0x110000 then .ok (Text.ofCodePoint n.toNat) else .error .tooLarge
  | .bool b => .ok (Char.ofNat (if b then 1 else 0))
  | _ => .error .mismatch

/-- A number with a point; the mark asks for the point and all digits. -/
def floatFilling (v : Conversion) (letter : Char) (precision : Nat) (x : Binary64) : Filling :=
  let small := letter.toLower
  let cs :=
    if small = 'e' then x.scientific precision
    else if small = 'f' then x.fixed precision
    else if v.marked then x.generalFull precision
    else x.general precision
  let cs := if v.marked then Binary64.withPoint cs else cs
  signedFilling v (if letter.isUpper then cs.map Char.toUpper else cs)

/-- Writes one value by the letter of a conversion. -/
def filling (v : Conversion) (letter : Char) (precision : Option Nat) (value : Value) :
    Except Fault Filling :=
  match letter with
  | 's' => .ok (textFilling value.display.toList precision)
  | 'r' => .ok (textFilling value.literal precision)
  | 'a' => .ok (textFilling (value.literal.flatMap escapeBeyondAscii) precision)
  | 'c' => (characterOf value).map fun c => { body := [c] }
  | 'd' | 'i' | 'u' => (wholeOf value).map (numberFilling v precision 10)
  | 'o' => (exactWholeOf value).map (numberFilling v precision 8)
  | 'x' | 'X' => (exactWholeOf value).map (numberFilling v precision 16)
  | 'e' | 'E' | 'f' | 'F' | 'g' | 'G' =>
    (floatOf value).map (floatFilling v letter (precision.getD 6))
  | _ => .error .malformed

/-! ### Filling a template -/

/-- The greatest width or precision, one less than 2^31. -/
def greatestExtent : Int := 2147483647

/-- The size of an extent, which may take an argument. -/
def extentSize (extent : Extent) (pending : Pending) :
    Except Fault (Option Int × Pending) :=
  match extent with
  | .none => .ok (none, pending)
  | .given n => if (n : Int) ≤ greatestExtent then .ok (some n, pending) else .error .malformed
  | .asked => do
    let (v, pending) ← takeNext pending
    let n ← exactWholeOf v
    if -greatestExtent ≤ n && n ≤ greatestExtent then return (some n, pending)
    else throw .tooLarge

/-- The arguments from which a conversion takes its value. -/
def sourceOf (args : Arguments) (pending : Pending) : Source → Except Fault Pending
  | .next => .ok pending
  | .field name => (takeField args name).map .one
  | .unclosed => if mayRemain args then .error .malformed else .error .mismatch

/-- Writes one conversion. -/
def convert (args : Arguments) (pending : Pending) (v : Conversion) :
    Except Fault (List Char × Pending) := do
  let pending ← sourceOf args pending v.source
  let (width, pending) ← extentSize v.width pending
  let (precision, pending) ← extentSize v.precision pending
  let some letter := v.letter | throw .malformed
  let (value, pending) ← takeNext pending
  let f ← filling v letter (precision.map Int.toNat) value
  let width := width.getD 0
  return (f.padded v width.natAbs (v.left || width < 0), pending)

/-- Writes pieces in order. -/
def fillPieces (args : Arguments) : Pending → List Piece → Except Fault (List Char)
  | pending, [] =>
    if isExhausted pending || mayRemain args then .ok [] else .error .mismatch
  | pending, .plain c :: rest => (fillPieces args pending rest).map (c :: ·)
  | pending, .conversion v :: rest => do
    let (written, pending) ← convert args pending v
    return written ++ (← fillPieces args pending rest)

/-- Fills a template with arguments. -/
def fill (template : String) (args : Arguments) : Except Fault String :=
  let pending := match args with
    | .row vs => Pending.row vs
    | .one v => .one v
  (fillPieces args pending (pieces template.toList)).map String.ofList

end Guildhall.Journal
