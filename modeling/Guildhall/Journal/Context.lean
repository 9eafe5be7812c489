/-
Guildhall/Journal/Context.lean

The fields that surround what is logged: which request is being served, for
whom, and by which operation.  Fields hold within a scope; leaving a scope
restores what held when it was entered, whatever was assigned inside.  Null
is no value here: it neither adds a field nor overrides one.
-/
import Guildhall.Value

namespace Guildhall.Journal

/-- Fields by name. -/
abbrev Fields := List (String × Value)

/-- Adds fields; those of the same name are replaced. -/
def Fields.add (new old : Fields) : Fields :=
  new.foldl (fun fields f => Value.put f.1 f.2 fields) old

/-- The fields that have a value. -/
def Fields.present (fields : Fields) : Fields :=
  fields.filter fun f => match f.2 with
    | .null => false
    | _ => true

/-- The fields that hold now, and for each open scope those that held before. -/
structure Context where
  current : Fields := []
  outer : List Fields := []
  deriving Inhabited

namespace Context

/-- The name of the field that tells requests apart. -/
def requestId : String := "request_id"

/-- The fields of a new scope; one that names no request gets a generated id. -/
def scopeFields (generated : String) (fields : Fields) : Fields :=
  if (fields.lookup requestId).isSome then fields.present
  else fields.present ++ [(requestId, .text generated)]

/-- Enters a scope. -/
def enter (generated : String) (fields : Fields) (c : Context) : Context :=
  { current := Fields.add (scopeFields generated fields) c.current
    outer := c.current :: c.outer }

/-- Leaves the innermost scope. -/
def leave (c : Context) : Context :=
  match c.outer with
  | before :: outer => { current := before, outer }
  | [] => c

/-- Leaves the innermost scope, if one is open. -/
def leave? (c : Context) : Option Context := if c.outer.isEmpty then none else some c.leave

/-- A value as a text; one that is torn stays so. -/
def asText : Value → Value
  | .torn s => .torn s
  | v => .text v.display

/-- Adds fields to the innermost scope, as texts. -/
def assign (fields : Fields) (c : Context) : Context :=
  { c with current := Fields.add (fields.present.map fun f => (f.1, asText f.2)) c.current }

end Context

end Guildhall.Journal
