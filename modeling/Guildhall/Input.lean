/-
Guildhall/Input.lean

Checks on what callers hand in.  Amounts are whole numbers within bounds;
names, titles and keys are texts, trimmed and of limited length; an email
address has the shape `local@domain.tld`.  Each check returns the value in
the form in which it is used from then on, or stops with a complaint about
its field.  Whether something exists or is taken is not decided here.
-/
import Guildhall.Stop

namespace Guildhall.Input

open Number

/-! ### Limits -/

/-- The greatest amount a caller can name, 2^62. -/
def greatestAmount : Int := 4611686018427387904

/-- The length of a user's name. -/
def nameLimit : Int := 64

/-- The length of an email address. -/
def emailLimit : Int := 255

/-- The length of a title. -/
def titleLimit : Int := 255

/-- The length of a lookup key. -/
def identifierLimit : Int := 255

/-- The message for a number with too many digits to be written. -/
def tooManyDigits : String :=
  "Exceeds the limit (" ++ Text.Numeral.write Text.Numeral.digitLimit ++
    " digits) for integer string conversion; use sys.set_int_max_str_digits() to increase the limit"

/-- Stops with a complaint about a field.  What was given for it is written down
first, which cannot be done with a number of too many digits. -/
def reject {α : Type} (given : Value) (field : String) (complaint : Complaint) : Except Stop α :=
  if given.isWritable then fail (.invalid field complaint) else .error (.badValue tooManyDigits)

/-! ### Whole numbers -/

/-- The whole number a value denotes.  A fraction is cut off; infinity is
beyond every whole number. -/
def toInteger (v : Value) (field : String) : Except Stop Int :=
  match v with
  | .null => reject v field .required
  | .bool _ => reject v field .notWhole
  | .int n => .ok n
  | .float (.infinite _) => .error .overflow
  | .float x =>
    match x.truncate? with
    | some n => .ok n
    | none => reject v field (.notWholeGot v)
  | .text s | .torn s =>
    match Text.Numeral.read s with
    | .ok n => .ok n
    | .error _ => reject v field (.notWholeGot v)
  | .bytes b =>
    match Text.Numeral.read (String.ofList (b.map fun n => Char.ofNat n.toNat)) with
    | .ok n => if b.all (· < 0x80) then .ok n else reject v field (.notWholeGot v)
    | .error _ => reject v field (.notWholeGot v)
  | .list _ | .object _ => reject v field (.notWholeGot v)

/-- A whole number within optional bounds.  The message of a refusal writes down the bound
and the number. -/
def integer (v : Value) (field : String) (least most : Option Int) : Except Stop Int := do
  let n ← toInteger v field
  if let some low := least then
    if n < low then reject (.list [.int low, .int n]) field (.below low n)
  if let some high := most then
    if high < n then reject (.list [.int high, .int n]) field (.above high n)
  return n

/-- An amount: not negative and not too large. -/
def amount (v : Value) (field : String) : Except Stop Int :=
  integer v field (some 0) (some greatestAmount)

/-- The sum of a stored number and an amount, if a column can hold it. -/
def total (current delta : Int) (field : String) : Except Stop Int :=
  if greatestStored < current + delta then reject (.int delta) field .totalTooLarge
  else .ok (current + delta)

/-! ### Texts -/

/-- A trimmed text with bounds on its length. -/
def boundedText (v : Value) (field : String) (least : Int) (most : Option Int) :
    Except Stop String :=
  match v with
  | .text raw | .torn raw => do
    let s := Text.strip raw
    if (s.length : Int) < least then
      reject (.text s) field (if least = 1 then .empty else .tooShort least)
    if let some high := most then
      if high < (s.length : Int) then reject (.text s) field (.tooLong high)
    return s
  | _ => reject v field .required

/-- A trimmed text that is not empty. -/
def text (v : Value) (field : String) (most : Option Int) : Except Stop String :=
  boundedText v field 1 most

/-- A key for a lookup: a row id, a name or an email address. -/
def identifier (v : Value) (field : String) : Except Stop String :=
  text v field (some identifierLimit)

/-- A text that may be left out; a blank one counts as left out. -/
def optionalText (v : Value) (field : String) (most : Option Int) :
    Except Stop (Option String) :=
  match v with
  | .null => .ok none
  | .text raw | .torn raw =>
    if (Text.strip raw).isEmpty then .ok none
    else (text v field most).map some
  | _ => (text v field most).map some

/-! ### Email addresses -/

/-- The characters of the parts of an address. -/
def isAddressChar (c : Char) : Bool := c != '@' && !Text.isBlank c

/-- One character, then the rest. -/
def oneThen (c : Char) (rest : List Char → Bool) : List Char → Bool
  | d :: cs => d == c && rest cs
  | [] => false

/-- One or more characters of a class, then the rest. -/
def manyThen (p : Char → Bool) (rest : List Char → Bool) : List Char → Bool
  | c :: cs => p c && (rest cs || manyThen p rest cs)
  | [] => false

/-- The end of a text; a line feed may stand there. -/
def isEnd (cs : List Char) : Bool := cs.isEmpty || cs == ['\n']

/-- The shape of an address: some characters, an at sign, some characters, a
point and some characters. -/
def isAddress : List Char → Bool :=
  manyThen isAddressChar (oneThen '@' (manyThen isAddressChar (oneThen '.'
    (manyThen isAddressChar isEnd))))

/-- An email address. -/
def email (v : Value) (field : String) : Except Stop String := do
  let s ← text v field (some emailLimit)
  if isAddress s.toList then return s else reject (.text s) field .badEmail

end Guildhall.Input
