/-
Guildhall/Journal/Level.lean

How important a log entry is.  Levels are ordered by number, and some have
two words.  Any number can be a level, but most have no word of their own.
-/
import Guildhall.Text.Numeral

namespace Guildhall.Journal

/-- The level of a log entry. -/
inductive Level
  | unset
  | debug
  | info
  | warning
  | error
  | critical
  /-- A level without a word. -/
  | numbered (n : Int)
  deriving DecidableEq, Repr

namespace Level

/-- The number of a level. -/
def number : Level → Int
  | unset => 0
  | debug => 10
  | info => 20
  | warning => 30
  | error => 40
  | critical => 50
  | numbered n => n

/-- The word for a level. -/
def word : Level → String
  | unset => "NOTSET"
  | debug => "DEBUG"
  | info => "INFO"
  | warning => "WARNING"
  | error => "ERROR"
  | critical => "CRITICAL"
  | numbered n => "Level " ++ String.ofList (Text.Numeral.intDigits n)

/-- Every level that has a word. -/
def all : List Level := [unset, debug, info, warning, error, critical]

/-- The level of a word in upper case; two levels have a second one. -/
def ofWord? (w : String) : Option Level :=
  if w = "WARN" then some warning
  else if w = "FATAL" then some critical
  else all.find? (·.word == w)

instance : LE Level := ⟨fun a b => a.number ≤ b.number⟩

instance (a b : Level) : Decidable (a ≤ b) := inferInstanceAs (Decidable (a.number ≤ b.number))

end Level

end Guildhall.Journal
