/-
Guildhall/Input/Named.lean

Checks of input by name, with named arguments.  A bound is a whole number
and is looked at only after the value has passed what comes before it; one
that is no number does not fit the check.
-/
import Guildhall.Input
import Guildhall.Signature

namespace Guildhall.Input

open Number

/-- A bound. -/
def bound (v : Value) : Except Stop Int :=
  match v.quantity? with
  | some (.whole n) => .ok n
  | _ => .error .badCall

/-- A bound that may be left out. -/
def bound? : Value → Except Stop (Option Int)
  | .null => .ok none
  | v => (bound v).map some

/-- The sum of two quantities, if a column can hold it. -/
def totalOf (current delta : Quantity) (field : String) : Except Stop Quantity :=
  match current, delta with
  | .whole current, .whole delta => (total current delta field).map .whole
  | current, delta =>
    match current.plus? delta with
    | none => .error .overflow
    | some sum =>
      if Quantity.isBelow greatestStored sum then
        reject (.ofQuantity delta) field .totalTooLarge
      else .ok sum

/-- What a check makes of its arguments. -/
abbrev Check := Except Stop Value

/-- A whole number within bounds. -/
def integerCheck (v : Value) (field : String) (least most : Value) : Check := do
  let _ ← toInteger v field
  let n ← integer v field (← bound? least) none
  let _ ← integer v field none (← bound? most)
  return .int n

/-- A text with bounds on its length. -/
def textCheck (v : Value) (field : String) (least most : Value) : Check :=
  match v with
  | .text _ => do
    let s ← boundedText v field (← bound least) none
    let _ ← boundedText v field 0 (← bound? most)
    return .text s
  | _ => reject v field .required

/-- A text that may be left out, with a bound on its length. -/
def optionalTextCheck (v : Value) (field : String) (most : Value) : Check := do
  match ← optionalText v field none with
  | none => return .null
  | some s =>
    let _ ← boundedText v field 1 (← bound? most)
    return .text s

/-- The sum of a stored number and an amount. -/
def totalCheck (current delta : Value) (field : String) : Check :=
  match current.quantity?, delta.quantity? with
  | some current, some delta => (totalOf current delta field).map .ofQuantity
  | _, _ => .error .badCall

/-- The signature of every check, by name. -/
def signatures : List (String × Signature Check) :=
  [("integer",
      { required := ["value", "field_name"]
        optional := [("min_value", .null), ("max_value", .null)]
        call := fun a =>
          integerCheck (a "value") (a "field_name").display (a "min_value") (a "max_value") }),
    ("non_negative_integer",
      { required := ["value", "field_name"]
        call := fun a => (amount (a "value") (a "field_name").display).map .int }),
    ("string",
      { required := ["value", "field_name"]
        optional := [("min_length", .int 1), ("max_length", .null)]
        call := fun a =>
          textCheck (a "value") (a "field_name").display (a "min_length") (a "max_length") }),
    ("email",
      { required := ["value"], optional := [("field_name", .text "email")]
        call := fun a => (email (a "value") (a "field_name").display).map .text }),
    ("identifier",
      { required := ["value"], optional := [("field_name", .text "id")]
        call := fun a => (identifier (a "value") (a "field_name").display).map .text }),
    ("optional_string",
      { required := ["value", "field_name"], optional := [("max_length", .null)]
        call := fun a =>
          optionalTextCheck (a "value") (a "field_name").display (a "max_length") }),
    ("total",
      { required := ["current", "delta", "field_name"]
        call := fun a =>
          totalCheck (a "current") (a "delta") (a "field_name").display })]

/-- The check of a name with arguments. -/
def ofNamed (name : String) (args : List (String × Value)) : Check :=
  match signatures.lookup name with
  | none => .error .badCall
  | some s => (s.callWith? args).elim (.error .badCall) id

end Guildhall.Input
