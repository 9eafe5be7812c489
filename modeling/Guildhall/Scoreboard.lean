/-
Guildhall/Scoreboard.lean

Match statistics by the name of the user.  Every user has one row of them;
any other number, and a name that no user has, means that the profile is
corrupted.  An update adds to the counters, to all of them or to none.
-/
import Guildhall.Input
import Guildhall.Store.Session

namespace Guildhall.Scoreboard

open Session

/-- The statistics of a user, by name. -/
structure Score where
  username : String
  wins : Int
  top5 : Int
  kills : Int
  games : Int
  deriving DecidableEq, Repr

/-- The statistics of a row. -/
def score (username : String) (row : Stats) : Score :=
  { username, wins := row.wins, top5 := row.top5, kills := row.kills, games := row.games }

/-- The message for a profile without exactly one row. -/
def corrupted : String := "Profile is corrupted. Contact support."

/-- The one row of a user. -/
def singleRow (s : Store) (username : String) : Except Stop Stats :=
  match s.statsOf username with
  | [row] => .ok row
  | rows => fail (.internal corrupted
      [("username", .text username), ("found_count", .int rows.length)])

/-- The name of a user, as it is looked up. -/
def readName (v : Value) : Except Stop String := Input.text v "username" (some Input.nameLimit)

/-- The statistics of a user. -/
def read (given : Value) : Session Score := do
  let username ← readName given
  reportingAs (storageFailure "get_stats" "Could not fetch user stats"
      [("username", .text username)]) <|
    transaction do return score username (← singleRow (← storeFor given) username)

/-- What is added to the counters. -/
structure Deltas where
  kills : Value := .int 0
  games : Value := .int 0
  top5 : Value := .int 0
  wins : Value := .int 0

/-- Adds to the counters of a user. -/
def add (m : Moment) (given : Value) (deltas : Deltas) : Session Score := do
  let username ← readName given
  let kills ← Input.amount deltas.kills "add_kills"
  let games ← Input.amount deltas.games "add_games"
  let top5 ← Input.amount deltas.top5 "add_top5"
  let wins ← Input.amount deltas.wins "add_wins"
  reportingAs (storageFailure "update_stats" "Could not update user stats"
      [("username", .text username)]) <|
    transaction do
      let row ← singleRow (← storeFor given) username
      let kills ← Input.total row.kills kills "add_kills"
      let games ← Input.total row.games games "add_games"
      let top5 ← Input.total row.top5 top5 "add_top5"
      let wins ← Input.total row.wins wins "add_wins"
      let row := { row with kills, games, top5, wins }
      run (·.writeStats row)
      flush m .statsByName
      return score username row

end Guildhall.Scoreboard
