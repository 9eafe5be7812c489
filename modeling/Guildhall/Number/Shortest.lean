/-
Guildhall/Number/Shortest.lean

Decimal digits of a positive binary number.  `shortest` gives the fewest
digits that read back as the same number, and of those the nearest;
`rounded` gives a fixed number of digits, correctly rounded.  Both return
the digits as a natural number and the power of ten of the last one.
-/
import Guildhall.Number.Binary64

namespace Guildhall.Number.Binary64

/-- The power of ten of the leading digit of a positive quotient. -/
def leadingPower (a b : Nat) : Int :=
  let p : Int := (digitCount a : Int) - (digitCount b : Int)
  if b * Nat.pow 10 p.toNat ≤ a * Nat.pow 10 (-p).toNat then p else p - 1

/-- A quotient over a power of ten, as a quotient. -/
def overPower (a b : Nat) (power : Int) : Nat × Nat :=
  (a * Nat.pow 10 (-power).toNat, b * Nat.pow 10 power.toNat)

/-- A positive quotient in `count` digits, rounded by a division: the digits and
the power of ten of the last one. -/
def roundedBy (division : Nat → Nat → Nat) (count a b : Nat) : Nat × Int :=
  let power := leadingPower a b - (count : Int) + 1
  let scaled := overPower a b power
  let digits := division scaled.1 scaled.2
  if digits = Nat.pow 10 count then (Nat.pow 10 (count - 1), power + 1) else (digits, power)

/-- A positive quotient in `count` digits, correctly rounded. -/
def rounded : Nat → Nat → Nat → Nat × Int := roundedBy roundDiv

/-- The nearer of the two neighbours on the grid of `10 ^ power` that read
back as the given number. -/
def gridPoint? (m : Nat) (e : Int) (power : Int) : Option Nat :=
  let (a, b) := ratio m e
  let scaled := overPower a b power
  let low := scaled.1 / scaled.2
  let twice := 2 * (scaled.1 % scaled.2)
  let lowFirst := twice < scaled.2 || (twice = scaled.2 && low % 2 = 0)
  let order := if lowFirst then [low, low + 1] else [low + 1, low]
  order.find? fun d => ofDecimal false d power == .finite false m e

/-- The grids from `count` digits on, at most `more` of them: the first one
with a point that reads back. -/
def firstGrid (m : Nat) (e leading : Int) : (more count : Nat) → Nat × Int
  | 0, count => rounded count (ratio m e).1 (ratio m e).2
  | more + 1, count =>
    let power := leading - (count : Int) + 1
    match gridPoint? m e power with
    | some d => (d, power)
    | none => firstGrid m e leading more (count + 1)

/-- The fewest digits that read back; seventeen are always enough. -/
def shortest (m : Nat) (e : Int) : Nat × Int :=
  firstGrid m e (leadingPower (ratio m e).1 (ratio m e).2) 16 1

end Guildhall.Number.Binary64
