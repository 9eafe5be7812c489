/-
Guildhall/Value.lean

Values without a fixed shape: what callers hand in before anything is
checked, what a token's payload holds and what a log record carries.

A text that was read with half a surrogate pair in it is a value of its
own, since no column and no message in bytes can hold it.

`literal` writes a value as it stands inside a larger one and `display`
writes it on its own; they differ for a text only, which `display` leaves
without quotes.
-/
import Guildhall.Number.Quantity
import Guildhall.Number.Written
import Guildhall.Text.Quoted

namespace Guildhall

open Number

/-- A value of any shape.  The fields of an object are in the order in which
they were first set, and their names are different. -/
inductive Value
  | null
  | bool (b : Bool)
  | int (n : Int)
  | float (x : Binary64)
  | text (s : String)
  /-- A text with half a surrogate pair in it. -/
  | torn (s : String)
  | bytes (b : List UInt8)
  | list (items : List Value)
  | object (fields : List (String × Value))
  deriving Inhabited, Repr

namespace Value

/-- A text, or null for a missing one. -/
def ofText? : Option String → Value
  | some s => .text s
  | none => .null

/-- A text as it was read, torn or not. -/
def ofReading (s : String) (isTorn : Bool) : Value := if isTorn then .torn s else .text s

/-! ### Quantities -/

/-- A quantity as a value. -/
def ofQuantity : Quantity → Value
  | .whole n => .int n
  | .fractional x => .float x

/-- A value as a quantity; a truth value is one or zero. -/
def quantity? : Value → Option Quantity
  | .int n => some (.whole n)
  | .bool b => some (.whole (if b then 1 else 0))
  | .float x => some (.fractional x)
  | _ => none

/-! ### Fields -/

/-- Sets a field: in its place if there is one of that name, else at the end. -/
def put (name : String) (v : Value) : List (String × Value) → List (String × Value)
  | [] => [(name, v)]
  | (key, old) :: rest => if key = name then (name, v) :: rest else (key, old) :: put name v rest

/-- The fields of an object; none of any other value. -/
def fields : Value → List (String × Value)
  | .object fields => fields
  | _ => []

/-- The field of a name; null if there is none. -/
def get (fields : List (String × Value)) (name : String) : Value :=
  (fields.lookup name).getD .null

theorem lookup_put (name key : String) (v : Value) (fields : List (String × Value)) :
    (put name v fields).lookup key = if key = name then some v else fields.lookup key := by
  induction fields with
  | nil =>
    by_cases h : key = name
    · simp [put, h]
    · simp [put, List.lookup_cons, h, beq_eq_false_iff_ne.2 h]
  | cons f fields ih =>
    obtain ⟨old, w⟩ := f
    by_cases hold : old = name
    · subst hold
      by_cases h : key = old
      · simp [put, h]
      · simp [put, List.lookup_cons, h, beq_eq_false_iff_ne.2 h]
    · by_cases h : key = old
      · subst h
        simp [put, hold]
      · simp [put, List.lookup_cons, hold, beq_eq_false_iff_ne.2 h, ih]

/-! ### Halves -/

mutual

/-- A value that was read with halves of surrogate pairs: the texts that hold one are
torn. -/
def tear : Value → Value
  | .text s => ofReading s (Text.hasHalf s)
  | .list items => .list (tearItems items)
  | .object fields => .object (tearFields fields)
  | v => v

/-- The items of a list, torn where they hold halves. -/
def tearItems : List Value → List Value
  | [] => []
  | v :: rest => tear v :: tearItems rest

/-- The fields of an object, torn where they hold halves. -/
def tearFields : List (String × Value) → List (String × Value)
  | [] => []
  | (name, v) :: rest => (name, tear v) :: tearFields rest

end

/-! ### Truth -/

/-- Whether a value counts as true: null, zero and what is empty do not. -/
def holds : Value → Bool
  | .null => false
  | .bool b => b
  | .int n => n != 0
  | .float x => !x.isZero
  | .text s | .torn s => !s.isEmpty
  | .bytes b => !b.isEmpty
  | .list items => !items.isEmpty
  | .object fields => !fields.isEmpty

/-! ### Written forms -/

mutual

/-- A value as it stands inside a larger one. -/
def literal : Value → List Char
  | .null => "None".toList
  | .bool true => "True".toList
  | .bool false => "False".toList
  | .int n => Text.Numeral.intDigits n
  | .float x => x.displayChars
  | .text s => (Text.quote s).toList
  | .torn s => (Text.quoteTorn s).toList
  | .bytes b => Text.quoteBytes b
  | .list items => '[' :: (literalItems items ++ [']'])
  | .object fields => '\x7b' :: (literalFields fields ++ ['\x7d'])

/-- The items of a list, with commas between them. -/
def literalItems : List Value → List Char
  | [] => []
  | v :: rest =>
    literal v ++ (if rest.isEmpty then [] else [',', ' ']) ++ literalItems rest

/-- The fields of an object, with commas between them. -/
def literalFields : List (String × Value) → List Char
  | [] => []
  | (name, v) :: rest =>
    (Text.quote name).toList ++ [':', ' '] ++ literal v ++
      (if rest.isEmpty then [] else [',', ' ']) ++ literalFields rest

end

mutual

/-- Whether the whole numbers of a value have few enough digits to be written. -/
def isWritable : Value → Bool
  | .int n => Text.Numeral.isWritable n
  | .list items => areWritable items
  | .object fields => haveWritable fields
  | _ => true

/-- Whether the items of a list can be written. -/
def areWritable : List Value → Bool
  | [] => true
  | v :: rest => isWritable v && areWritable rest

/-- Whether the fields of an object can be written. -/
def haveWritable : List (String × Value) → Bool
  | [] => true
  | (_, v) :: rest => isWritable v && haveWritable rest

end

/-- A value on its own: a text as it is, anything else as its literal. -/
def display : Value → String
  | .text s | .torn s => s
  | v => String.ofList (literal v)

end Value

end Guildhall
