/-
Guildhall/Calendar.lean

Instants and their written form.  An instant is a count of microseconds
from the start of 1970.  The calendar that writes it is the proleptic
Gregorian one for the years 1 to 9999; `inCalendar` says which instants it
can write, and every way to make an instant from a number of seconds
answers `none` outside of it.
-/
import Guildhall.Number.Quantity

namespace Guildhall

open Number

/-- A point in time, in microseconds from the start of 1970. -/
structure Instant where
  micros : Int
  deriving DecidableEq, Repr, Inhabited

namespace Instant

instance : LE Instant := ⟨fun a b => a.micros ≤ b.micros⟩

instance : LT Instant := ⟨fun a b => a.micros < b.micros⟩

instance (a b : Instant) : Decidable (a ≤ b) := inferInstanceAs (Decidable (a.micros ≤ b.micros))

instance (a b : Instant) : Decidable (a < b) := inferInstanceAs (Decidable (a.micros < b.micros))

theorem le_def (a b : Instant) : a ≤ b ↔ a.micros ≤ b.micros := Iff.rfl

theorem lt_def (a b : Instant) : a < b ↔ a.micros < b.micros := Iff.rfl

/-! ### The range of the calendar -/

/-- The first second of the year 1. -/
def firstSecond : Int := -62135596800

/-- The last second of the year 9999. -/
def lastSecond : Int := 253402300799

/-- The instants of the years 1 to 9999. -/
def inCalendar (t : Instant) : Bool :=
  firstSecond * 1000000 ≤ t.micros && t.micros < (lastSecond + 1) * 1000000

/-- Whether a clock can count so many seconds, in 64 bits. -/
def isCount (seconds : Int) : Bool :=
  -9223372036854775808 ≤ seconds && seconds ≤ 9223372036854775807

/-- Whether the year that is so many seconds away fits into 32 bits, as clocks
hold it. -/
def hasYear (seconds : Int) : Bool :=
  -67768040609740800 ≤ seconds && seconds ≤ 67768036191676799

/-- An instant of the calendar. -/
def ofMicros? (n : Int) : Option Instant :=
  if (Instant.mk n).inCalendar then some ⟨n⟩ else none

/-- The instant a whole number of seconds after the start of 1970. -/
def ofSeconds? (n : Int) : Option Instant := ofMicros? (n * 1000000)

/-- The microseconds of a fraction below one: the fraction times a million is
taken to the nearest floating-point number first, then to a whole one. -/
def fractionMicros (a b : Nat) : Nat := (Binary64.ofRatio false (a * 1000000) b).nearestWhole

/-- The microseconds of a floating-point number of seconds, to the nearest one. -/
def floatMicros? : Binary64 → Option Int
  | .finite negative m e =>
    let (a, b) := Binary64.ratio m e
    let size := (a / b * 1000000 + fractionMicros (a % b) b : Nat)
    some (if negative then -(size : Int) else size)
  | _ => none

/-- The instant a floating-point number of seconds after the start of 1970,
to the nearest microsecond. -/
def ofFloat? (x : Binary64) : Option Instant := (floatMicros? x).bind ofMicros?

/-- The instant so many seconds after the start of 1970. -/
def ofQuantity? : Quantity → Option Instant
  | .whole n => ofSeconds? n
  | .fractional x => ofFloat? x

/-- The instant so many microseconds later, if the calendar has it. -/
def later? (t : Instant) (micros : Int) : Option Instant := ofMicros? (t.micros + micros)

/-- The start of the second that an instant lies in. -/
def wholeSecond (t : Instant) : Instant := ⟨t.micros - t.micros % 1000000⟩

/-- The seconds from the start of 1970, toward zero from the nearest
floating-point number. -/
def seconds (t : Instant) : Int :=
  ((Binary64.ofRatio (t.micros < 0) t.micros.natAbs 1000000).truncate?).getD 0

/-! ### The written form -/

/-- The year, month and day so many days after the start of 1970.  The year
is taken from March on, so that the leap day is its last. -/
def dateOfDays (days : Int) : Int × Nat × Nat :=
  let shifted := days + 719468
  let era := shifted / 146097
  let dayOfEra := (shifted % 146097).toNat
  let yearOfEra :=
    (dayOfEra - dayOfEra / 1460 + dayOfEra / 36524 - dayOfEra / 146096) / 365
  let dayOfYear := dayOfEra - (365 * yearOfEra + yearOfEra / 4 - yearOfEra / 100)
  let month := (5 * dayOfYear + 2) / 153
  let day := dayOfYear - (153 * month + 2) / 5 + 1
  let month := if month < 10 then month + 3 else month - 9
  let year := (yearOfEra : Int) + era * 400 + (if month ≤ 2 then 1 else 0)
  (year, month, day)

/-- Date and time without an offset; the fraction has six digits and stands
only if it is not zero. -/
def isoChars (t : Instant) : List Char :=
  let pad := Text.Numeral.padded
  let seconds := t.micros / 1000000
  let fraction := (t.micros % 1000000).toNat
  let (year, month, day) := dateOfDays (seconds / 86400)
  let second := (seconds % 86400).toNat
  pad 4 year.toNat ++ '-' :: pad 2 month ++ '-' :: pad 2 day ++ 'T' :: pad 2 (second / 3600) ++
    ':' :: pad 2 (second / 60 % 60) ++ ':' :: pad 2 (second % 60) ++
    (if fraction = 0 then [] else '.' :: pad 6 fraction)

/-- Date and time without an offset. -/
def iso (t : Instant) : String := String.ofList t.isoChars

/-- Date and time with the offset of universal time. -/
def isoUtc (t : Instant) : String := String.ofList (t.isoChars ++ "+00:00".toList)

/-- Date and time with the letter of universal time. -/
def isoZulu (t : Instant) : String := String.ofList (t.isoChars ++ ['Z'])

end Instant

end Guildhall
