/-
Guildhall/Json/Reader.lean

Reading JSON text.  Besides the standard's values `NaN`, `Infinity` and
`-Infinity` are read, of several fields of one name the last one counts, a
number with a point or an exponent is a floating-point one, and control
characters may not stand in a text.  Values nest no deeper than
`nestingLimit`.

A fault carries the rest of the text from the character at which reading
stopped, so the place of the fault is a difference of two lengths.
-/
import Guildhall.Text.Hex
import Guildhall.Text.Part
import Guildhall.Text.Surrogate
import Guildhall.Value

namespace Guildhall.Json

open Number

/-- Why a text is not JSON. -/
inductive Fault
  /-- Reading stopped in front of the given rest. -/
  | stopped (rest : List Char)
  /-- A whole number has more digits than are read. -/
  | tooManyDigits
  /-- Values are nested too deeply. -/
  | tooDeep
  deriving DecidableEq, Repr

/-- How deep lists and objects may be nested. -/
def nestingLimit : Nat := 960

/-- The white space between the parts of a value. -/
def isSpace (c : Char) : Bool := c == ' ' || c == '\t' || c == '\n' || c == '\r'

/-- A text without its leading white space. -/
def skipSpace (cs : List Char) : List Char := cs.dropWhile isSpace

/-! ### Texts -/

/-- The character that a short escape stands for. -/
def shortEscape? : Char → Option Char
  | '"' => some '"'
  | '\\' => some '\\'
  | '/' => some '/'
  | 'b' => some '\x08'
  | 'f' => some '\x0c'
  | 'n' => some '\n'
  | 'r' => some '\r'
  | 't' => some '\t'
  | _ => none

/-- The second half of a pair that the given text may go on with, with the
number of characters it takes. -/
def secondUnit? : List Char → Except Fault (Option Nat)
  | '\\' :: 'u' :: rest =>
    if rest.length ≤ 4 then .ok none
    else
      match Text.hexNumber? (rest.take 4) with
      | none => .error (.stopped ('u' :: rest))
      | some n => .ok (if Text.isLowSurrogate n then some n else none)
  | _ => .ok none

/-- What an escape stands for. -/
structure Escape where
  char : Char
  /-- Whether the character stands for half a pair. -/
  isHalf : Bool
  /-- How many characters the escape takes after its backslash. -/
  length : Nat

/-- The escape of one unit, by its number. -/
def Escape.ofUnit (n : Nat) : Escape := ⟨Text.ofCodePoint n, Text.isSurrogate n, 5⟩

/-- Reads an escape, of which the backslash has been read.  `opening` is the text
from the opening quote on. -/
def escape (opening : List Char) : List Char → Except Fault Escape
  | [] => .error (.stopped opening)
  | 'u' :: rest =>
    if rest.length ≤ 4 then .error (.stopped ('u' :: rest))
    else
      match Text.hexNumber? (rest.take 4) with
      | none => .error (.stopped ('u' :: rest))
      | some n =>
        if Text.isHighSurrogate n then do
          match ← secondUnit? (rest.drop 4) with
          | some low => return ⟨Text.pairChar n low, false, 11⟩
          | none => return .ofUnit n
        else .ok (.ofUnit n)
  | c :: rest =>
    match shortEscape? c with
    | some d => .ok ⟨d, false, 1⟩
    | none => .error (.stopped ('\\' :: c :: rest))

/-- Reads a text up to its closing quote: the text, whether it is torn, and what
follows.  `opening` is the text from the opening quote on, `read` what has been
read, last character first, and `torn` whether that holds half a pair. -/
def readText (opening : List Char) (torn : Bool) (read : List Char) (cs : List Char) :
    Except Fault (String × Bool × List Char) :=
  match cs with
  | [] => .error (.stopped opening)
  | c :: rest =>
    if c = '"' then .ok (String.ofList read.reverse, torn, rest)
    else if c = '\\' then
      match escape opening rest with
      | .error fault => .error fault
      | .ok e => readText opening (torn || e.isHalf) (e.char :: read) (rest.drop e.length)
    else if c.toNat < 0x20 then .error (.stopped (c :: rest))
    else readText opening torn (c :: read) rest
termination_by cs.length
decreasing_by
  · simp only [List.length_drop, List.length_cons]
    omega
  · simp

/-! ### Numbers -/

/-- The fraction that a text begins with: its digits and what follows. -/
def fraction? : List Char → Option (List Char × List Char)
  | '.' :: rest =>
    let ds := rest.takeWhile Char.isDigit
    if ds.isEmpty then none else some (ds, rest.dropWhile Char.isDigit)
  | _ => none

/-- The exponent that a text begins with: its value and what follows. -/
def exponent? : List Char → Option (Int × List Char)
  | mark :: rest =>
    if mark == 'e' || mark == 'E' then
      let (negative, rest) := match rest with
        | '-' :: after => (true, after)
        | '+' :: after => (false, after)
        | after => (false, after)
      let (value, count, after) := Binary64.readDigits 0 0 rest
      if count = 0 then none
      else some (if negative then -(value : Int) else (value : Int), after)
    else none
  | [] => none

/-- Reads a number from its first digit on.  `start` is the text from its
sign on. -/
def readUnsigned (start : List Char) (negative : Bool) (cs : List Char) :
    Except Fault (Value × List Char) :=
  match cs with
  | [] => .error (.stopped start)
  | first :: _ =>
    if !first.isDigit then .error (.stopped start)
    else
      let whole := if first == '0' then ['0'] else cs.takeWhile Char.isDigit
      let after := cs.drop whole.length
      let (places, after, hasFraction) := match fraction? after with
        | some (ds, rest) => (ds, rest, true)
        | none => ([], after, false)
      let (power, after, hasExponent) := match exponent? after with
        | some (e, rest) => (e, rest, true)
        | none => (0, after, false)
      let digits := (Binary64.readDigits 0 0 (whole ++ places)).1
      if hasFraction || hasExponent then
        .ok (.float (Binary64.ofDecimal negative digits (power - places.length)), after)
      else if whole.length > Text.Numeral.digitLimit then .error .tooManyDigits
      else .ok (.int (if negative then -(digits : Int) else (digits : Int)), after)

/-! ### Values -/

/-- Reads a word or a number. -/
def readScalar (cs : List Char) : Except Fault (Value × List Char) :=
  if let some rest := Text.after? "null".toList cs then .ok (.null, rest)
  else if let some rest := Text.after? "true".toList cs then .ok (.bool true, rest)
  else if let some rest := Text.after? "false".toList cs then .ok (.bool false, rest)
  else if let some rest := Text.after? "NaN".toList cs then .ok (.float .nan, rest)
  else if let some rest := Text.after? "Infinity".toList cs then
    .ok (.float (.infinite false), rest)
  else if let some rest := Text.after? "-Infinity".toList cs then
    .ok (.float (.infinite true), rest)
  else
    match cs with
    | '-' :: rest => readUnsigned cs true rest
    | _ => readUnsigned cs false cs

mutual

/-- Reads a value.  `depth` bounds the number of values and separators on the
way; the length of the text is always enough.  `room` is how deep the value may
be nested. -/
def readValue (depth room : Nat) (cs : List Char) : Except Fault (Value × List Char) :=
  match depth with
  | 0 => .error (.stopped cs)
  | depth + 1 =>
    match cs, room with
    | '"' :: rest, _ => do
      let (s, torn, rest) ← readText cs false [] rest
      return (.ofReading s torn, rest)
    | '[' :: _, 0 | '\x7b' :: _, 0 => .error .tooDeep
    | '[' :: rest, room + 1 =>
      match skipSpace rest with
      | ']' :: rest => .ok (.list [], rest)
      | rest => readItems depth room [] rest
    | '\x7b' :: rest, room + 1 =>
      match skipSpace rest with
      | '\x7d' :: rest => .ok (.object [], rest)
      | rest => readFields depth room [] rest
    | cs, _ => readScalar cs

/-- Reads the items of a list, at least one; `items` are those before it,
last one first. -/
def readItems (depth room : Nat) (items : List Value) (cs : List Char) :
    Except Fault (Value × List Char) :=
  match depth with
  | 0 => .error (.stopped cs)
  | depth + 1 => do
    let (v, rest) ← readValue depth room cs
    match skipSpace rest with
    | ']' :: rest => return (.list (v :: items).reverse, rest)
    | ',' :: rest => readItems depth room (v :: items) (skipSpace rest)
    | rest => throw (.stopped rest)

/-- Reads the fields of an object, at least one, after those given. -/
def readFields (depth room : Nat) (fields : List (String × Value)) (cs : List Char) :
    Except Fault (Value × List Char) :=
  match depth with
  | 0 => .error (.stopped cs)
  | depth + 1 =>
    match cs with
    | '"' :: rest => do
      let (name, _, rest) ← readText cs false [] rest
      match skipSpace rest with
      | ':' :: rest =>
        let (v, rest) ← readValue depth room (skipSpace rest)
        let fields := Value.put name v fields
        match skipSpace rest with
        | '\x7d' :: rest => return (.object fields, rest)
        | ',' :: rest => readFields depth room fields (skipSpace rest)
        | rest => throw (.stopped rest)
      | rest => throw (.stopped rest)
    | cs => .error (.stopped cs)

end

/-- Reads a text that holds one value and white space around it. -/
def readChars (cs : List Char) : Except Fault Value := do
  let (v, rest) ← readValue (cs.length + 1) nestingLimit (skipSpace cs)
  match skipSpace rest with
  | [] => return v
  | rest => throw (.stopped rest)

/-- Reads a decoded text that holds one value; the text may be torn itself. -/
def readDecoded (cs : List Char) (torn : Bool) : Except Fault Value := do
  let v ← readChars cs
  return if torn then v.tear else v

/-- Reads a string that holds one value. -/
def read (s : String) : Except Fault Value := readChars s.toList

end Guildhall.Json
