/-
Guildhall/Journal/Setup.lean

Where log entries go.  A setup says which levels are written and in which
form; every entry passes a queue of limited size, and what the queue cannot
take is dropped and counted.
-/
import Guildhall.Journal.Entry
import Guildhall.Settings
import Guildhall.Stop
import Guildhall.Text.Part

namespace Guildhall.Journal

/-! ### The queue -/

/-- What happened to entries at the queue. -/
structure Tally where
  enqueued : Nat := 0
  dropped : Nat := 0
  deriving DecidableEq, Repr

/-- The line that reports a dropped entry. -/
def dropNotice : String := "users-service: log queue full, record dropped\n"

/-- Puts one more entry into a queue that nobody empties; a capacity of zero is
no limit. -/
def Tally.put (capacity : Nat) (t : Tally) : Tally :=
  if capacity = 0 || t.enqueued < capacity then { t with enqueued := t.enqueued + 1 }
  else { t with dropped := t.dropped + 1 }

/-- Puts a number of entries into an empty queue. -/
def Tally.ofCount (capacity : Nat) : Nat → Tally
  | 0 => {}
  | n + 1 => (Tally.ofCount capacity n).put capacity

/-- What is reported about dropped entries. -/
def Tally.report (t : Tally) : String := String.join (List.replicate t.dropped dropNotice)

/-! ### Setups -/

/-- How the log is written. -/
structure Setup where
  level : Level
  asJson : Bool
  toFile : Bool
  deriving DecidableEq, Repr

/-- The word for the form of a plain line, which is no level. -/
def formWord : String := "BASIC_FORMAT"

/-- The word for the styles of templates, which are no level either. -/
def stylesWord : String := "_STYLES"

/-- The level of a word in any letter case; an unknown word means `info`. -/
def levelOf (word : String) : Except Stop Level :=
  let word := Text.upper word
  if word = formWord then .error .unusable
  else if word = stylesWord then .error .badCall
  else .ok ((Level.ofWord? word).getD .info)

/-- The setup that the settings ask for. -/
def Setup.ofSettings (s : Settings) : Except Stop Setup := do
  return { level := ← levelOf s.logLevel, asJson := s.logsJson, toFile := s.logToFile }

/-- The loggers that are too talkative below warnings. -/
def quietLoggers : List String := ["asyncio", "sqlalchemy", "uvicorn.access"]

/-- Whether a logger is one of the quiet ones or below one. -/
def isQuiet (logger : String) : Bool :=
  quietLoggers.any fun name => logger == name || Text.beginsWith (name ++ ".") logger

/-- The level from which on a logger makes entries. -/
def Setup.threshold (setup : Setup) (logger : String) : Level :=
  if isQuiet logger then .warning else setup.level

/-- Whether an entry is made at all; one without a level never is. -/
def Setup.makes (setup : Setup) (e : Entry) : Bool :=
  e.level ≠ .unset && decide (setup.threshold e.logger ≤ e.level)

/-- Whether an entry is written: it has to be made, and the level of the setup
holds for every logger. -/
def Setup.passes (setup : Setup) (e : Entry) : Bool :=
  setup.makes e && decide (setup.level ≤ e.level)

/-- The logger of the log itself. -/
def ownLogger : String := "src.core.logging.logger"

/-- The entry that says how the log is set up. -/
def Setup.readyEntry (setup : Setup) (now : Instant) : Entry :=
  { message := .text "Logging ready", level := .debug, logger := ownLogger, created := now
    extra := [("level", .text setup.level.word), ("json", .bool setup.asJson)] }

/-! ### Writing entries -/

/-- What was written. -/
structure Output where
  console : List String := []
  file : List String := []
  tally : Tally := {}
  deriving DecidableEq, Repr

/-- Writes an entry.  One whose message cannot be filled in is lost before it
reaches the queue. -/
def Setup.write (setup : Setup) (o : Output) (e : Entry) : Output :=
  if !setup.passes e then o
  else
    let lines := do
      let json ← e.jsonLine
      let line ← if setup.asJson then pure json else e.textLine
      return (line, json)
    match lines with
    | .error _ => o
    | .ok (line, json) =>
      { console := o.console ++ [line]
        file := if setup.toFile then o.file ++ [json] else o.file
        tally := { o.tally with enqueued := o.tally.enqueued + 1 } }

/-- Whether an extra value of an entry has the name of one of its attributes. -/
def isConfused (e : Entry) : Bool := e.extra.any fun f => attributeNames.contains f.1

/-- The name under which the logger without a name is shown. -/
def rootName : String := "root"

/-- An entry of the logger without a name, under the name that is shown. -/
def withName (e : Entry) : Entry := if e.logger.isEmpty then { e with logger := rootName } else e

/-- Writes entries in a context, after the one that the log makes itself.
Nothing is written if an entry that is made is confused. -/
def Setup.writeAll (setup : Setup) (c : Context) (now : Instant) (entries : List Entry) :
    Option Output :=
  if entries.any fun e => setup.makes e && isConfused e then none
  else
    some ((setup.readyEntry now :: entries).foldl
      (fun o e => setup.write o ((withName e).inContext c)) {})

end Guildhall.Journal
