/-
Guildhall/Store/Session.lean

Work on a store.  A session runs on a desk, which holds the store and the
supply of fresh ids; when it stops, the desk is left as the last statement
left it.  `transaction` makes a piece of work all or nothing: if it stops
before its changes are permanent, the store is what it was before.  The
supply is no part of the store, so an id that has been taken stays taken.

There is one more step behind that: the session is given back, and the
caller waits for it.  A deadline that strikes then undoes nothing any more
(`cutLate`).

A moment says what surrounds a call: the clock, and a place at which the
storage breaks down, if there is one.  A desk may also be in for trouble
with any of its next statements, the last one of a unit of work, which
makes its changes permanent, included.
-/
import Guildhall.Store.Statement

namespace Guildhall

/-! ### Desks -/

/-- Fresh ids.  Row ids come from a list prepared in advance and are then
numbered; tokens have numbered ids of their own. -/
structure Supply where
  prepared : List String := []
  rowsNumbered : Nat := 0
  tokensNumbered : Nat := 0
  deriving DecidableEq, Repr

/-- A number as the last group of an id. -/
def idGroup (n : Nat) : String := String.ofList (Text.Numeral.padded 12 n)

/-- The next row id, and the supply without it. -/
def Supply.nextRow (s : Supply) : String × Supply :=
  match s.prepared with
  | id :: rest => (id, { s with prepared := rest })
  | [] =>
    ("00000000-0000-4000-8000-" ++ idGroup (s.rowsNumbered + 1),
      { s with rowsNumbered := s.rowsNumbered + 1 })

/-- The next token id, and the supply without it. -/
def Supply.nextToken (s : Supply) : String × Supply :=
  ("11111111-1111-4111-8111-" ++ idGroup (s.tokensNumbered + 1),
    { s with tokensNumbered := s.tokensNumbered + 1 })

/-- The connection of a desk to its storage. -/
inductive Link
  | up
  /-- The storage cannot be reached. -/
  | broken
  /-- Nothing answers where the storage should be. -/
  | unanswered
  /-- The storage has not been opened. -/
  | closed
  deriving DecidableEq, Repr

/-- What sessions run on. -/
structure Desk where
  store : Store := {}
  supply : Supply := {}
  link : Link := .up
  /-- Whether the tables exist. -/
  tables : Bool := true
  /-- What happens to the next statements: each one with a stop ends there.  What
  comes after the last entry is carried out. -/
  trouble : List (Option Stop) := []
  deriving Repr

/-- Goes on only if the storage can be reached. -/
def Desk.checkLink (d : Desk) : Except Stop Unit :=
  match d.link with
  | .up => .ok ()
  | .broken => .error .storage
  | .unanswered => .error .unreachable
  | .closed => .error (.notReady .storage)

/-- Goes on only if the tables can be reached. -/
def Desk.checkTables (d : Desk) : Except Stop Unit := do
  d.checkLink
  if d.tables then return () else throw .storage

/-- Work on a desk that may stop. -/
abbrev Session := EStateM Stop Desk

instance : MonadLift (Except Stop) Session where
  monadLift
    | .ok a => pure a
    | .error stop => throw stop

/-! ### Moments -/

/-- The places at which pending rows are sent to the storage. -/
inductive Site
  | users
  | userStats
  | possessions
  | items
  | news
  | statsByName
  deriving DecidableEq, Repr

/-- What surrounds a call. -/
structure Moment where
  now : Instant
  /-- A place at which the storage breaks down, and how the call stops there. -/
  fault : Option (Site × Stop) := none

/-! ### Statements -/

namespace Session

/-- Sends a statement to the storage, which may be in for trouble with it. -/
def send : Session Unit := fun d =>
  match d.trouble with
  | [] => .ok () d
  | none :: rest => .ok () { d with trouble := rest }
  | some stop :: rest => .error stop { d with trouble := rest }

/-- The store as the session sees it. -/
def store : Session Store := do
  send
  return (← get).store

/-- The store as the session sees it, for a lookup by a value as it was `given`.  The
lookup stops at one that has no bytes. -/
def storeFor (given : Value) : Session Store := do
  let s ← store
  checkBytes given
  return s

/-- Puts the result of a statement in the place of the store. -/
def run (statement : Store → Except Stop Store) : Session Unit := do
  let changed ← statement (← store)
  modify fun d => { d with store := changed }

/-- Sends pending rows to the storage at a place, which may break down there. -/
def flush (m : Moment) (site : Site) : Session Unit := do
  send
  match m.fault with
  | some (place, stop) => if place = site then throw stop
  | none => return ()

/-- Takes a row id. -/
def takeRowId : Session String := do
  let (id, supply) := (← get).supply.nextRow
  modify fun d => { d with supply }
  return id

/-- Takes a token id. -/
def takeTokenId : Session String := do
  let (id, supply) := (← get).supply.nextToken
  modify fun d => { d with supply }
  return id

/-! ### Units of work -/

/-- Work with a last statement that makes its changes permanent. -/
def committing {α : Type} (work : Session α) : Session α := do
  let a ← work
  send
  return a

/-- Work that needs the tables and changes the store as a whole or not at all.  It is over
when its changes are permanent; what may happen while the session is given back is left to
`cutLate`. -/
def transaction {α : Type} (work : Session α) : Session α := fun d =>
  match d.checkTables with
  | .error stop => .error stop d
  | .ok () =>
    match committing work d with
    | .ok a done => .ok a done
    | .error stop done => .error stop { d with supply := done.supply, trouble := done.trouble }

/-- Work that is cut off by the deadline when its changes are permanent and its session is
being given back.  There is nothing left to roll back, and the caller learns no result. -/
def cutLate {α : Type} (work : Session α) : Session α := fun d =>
  match work d with
  | .ok _ done => .error .hung done
  | .error stop done => .error stop done

/-- Work that says what the caller sees when the storage stops it. -/
def reporting {α : Type} (onIntegrity onStorage : Failure) (work : Session α) : Session α :=
  fun d =>
    match work d with
    | .error .integrity done => .error (.failure onIntegrity) done
    | .error .storage done => .error (.failure onStorage) done
    | result => result

/-- A failure of the storage inside an operation; the details are for the logs. -/
def storageFailure (operation message : String) (details : List (String × Value)) : Failure :=
  .internal message (("operation", .text operation) :: details)

/-- Work that reports every stop of the storage in one way. -/
def reportingAs {α : Type} (f : Failure) (work : Session α) : Session α := reporting f f work

end Session

end Guildhall
