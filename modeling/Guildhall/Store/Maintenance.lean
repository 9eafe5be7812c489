/-
Guildhall/Store/Maintenance.lean

Work on the tables by hand, past the checks of the service: rows are added,
changed and removed as records, and the tables themselves are dropped and
made again.  The constraints of the tables hold here too, and each piece of
work is a transaction of its own.
-/
import Guildhall.Store.Record
import Guildhall.Store.Session

namespace Guildhall

/-- The key of a row; that of a possession has two parts. -/
inductive RowKey
  | single (id : String)
  | pair (userId itemId : String)
  deriving DecidableEq, Repr

/-- A piece of maintenance. -/
inductive Maintenance
  | add (table : Table) (row : Record)
  | update (table : Table) (key : RowKey) (row : Record)
  | delete (table : Table) (key : RowKey)
  | dump
  | health
  | drop
  | make

namespace Maintenance

open Session

/-! ### Rows -/

/-- A record with an id: its own, or a fresh one if it has none. -/
def withId (row : Record) : Session Record := do
  match row.lookup "id" with
  | none | some .null => return Value.put "id" (.text (← takeRowId)) row
  | some _ => return row

/-- Adds a row.  Columns that are not given are empty, zero or false, and the
times are now. -/
def addRow (now : Instant) (row : Record) : Table → Session Unit
  | .users => do
    let blank : User :=
      { id := "", name := "", email := "", password := "", createdAt := now, updatedAt := now }
    let user ← blank.amend (← withId row)
    transaction (run (·.insertUser user))
  | .items => do
    let blank : Item :=
      { id := "", name := "", slot := 0, imageId := "", createdAt := now, updatedAt := now }
    let item ← blank.amend (← withId row)
    transaction (run (·.insertItem item))
  | .possessions => do
    let blank : Possession := { userId := "", itemId := "" }
    let possession ← blank.amend row
    transaction (run (·.insertPossession possession))
  | .stats => do
    let blank : Stats := { id := "", userId := "" }
    let stats ← blank.amend (← withId row)
    transaction (run (·.insertStats stats))
  | .news => do
    let blank : News := { id := "", title := "", createdAt := now }
    let news ← blank.amend (← withId row)
    transaction (run (·.insertNews news))

/-- Adds a row if all its fields are columns. -/
def addChecked (now : Instant) (row : Record) (table : Table) : Session Unit := do
  if row.all fun field => table.admits field.1 then addRow now row table else throw .badCall

/-- The time of the last change of a row: now, unless the change gives another
one. -/
def stamp (now before given : Instant) : Instant := if given = before then now else given

/-- Changes a row; answers whether there is one. -/
def updateRow (now : Instant) (row : Record) (table : Table) (key : RowKey) : Session Bool :=
  transaction do
    let s ← store
    match table, key with
    | .users, .single id =>
      let some old := s.user? id | return false
      let user ← old.amend row
      if user ≠ old then
        run (·.replaceUser id { user with updatedAt := stamp now old.updatedAt user.updatedAt })
      return true
    | .items, .single id =>
      let some old := s.item? id | return false
      let item ← old.amend row
      if item ≠ old then
        run (·.replaceItem id { item with updatedAt := stamp now old.updatedAt item.updatedAt })
      return true
    | .possessions, .pair userId itemId =>
      let some old := s.possession? userId itemId | return false
      let possession ← old.amend row
      run (·.replacePossession old possession)
      return true
    | .stats, .single id =>
      let some old := s.stats.find? (·.id == id) | return false
      let stats ← old.amend row
      run (·.replaceStats id stats)
      return true
    | .news, .single id =>
      let some old := s.news? id | return false
      let news ← old.amend row
      run (·.replaceNews id news)
      return true
    | _, _ => return false

/-- Removes a row; answers whether there was one. -/
def deleteRow (table : Table) (key : RowKey) : Session Bool :=
  transaction do
    let s ← store
    let removeIf (found : Bool) (rest : Store) : Session Bool := do
      if found then run fun _ => .ok rest
      return found
    match table, key with
    | .users, .single id => removeIf (s.user? id).isSome (s.deleteUser id)
    | .items, .single id => removeIf (s.item? id).isSome (s.deleteItem id)
    | .possessions, .pair userId itemId =>
      removeIf (s.possession? userId itemId).isSome (s.deletePossession userId itemId)
    | .stats, .single id => removeIf (s.stats.any (·.id == id)) (s.deleteStats id)
    | .news, .single id => removeIf (s.news? id).isSome (s.deleteNews id)
    | _, _ => return false

/-! ### Tables -/

/-- Goes on only if the storage can be reached. -/
def checkLink : Session Unit := do (← get).checkLink

/-- Drops every table with its rows. -/
def dropTables : Session Unit := do
  checkLink
  modify fun d => { d with tables := false, store := {} }

/-- Makes the tables that are missing, without rows. -/
def makeTables : Session Unit := do
  checkLink
  modify fun d => if d.tables then d else { d with tables := true, store := {} }

/-- What is answered for a row that may be missing. -/
def found (present : Bool) : Value := if present then .null else .text "missing"

/-- The answer of a piece of work under the name that tells what it is. -/
def result (v : Value) : Value := .object [("result", v)]

/-- Runs a piece of maintenance. -/
def perform (now : Instant) : Maintenance → Session Value
  | .add table row => do
    addChecked now row table
    return result .null
  | .update table key row => return result (found (← updateRow now row table key))
  | .delete table key => return result (found (← deleteRow table key))
  | .dump => transaction do return .object [("tables", (← store).dump)]
  | .health => return result (.bool true)
  | .drop => do
    dropTables
    return result .null
  | .make => do
    makeTables
    return result .null

end Maintenance

end Guildhall
