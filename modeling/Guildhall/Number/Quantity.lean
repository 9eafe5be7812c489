/-
Guildhall/Number/Quantity.lean

Quantities: whole numbers of any size and floating-point numbers.  Sum and
difference of two whole ones are exact; if one of them is floating-point,
the other one is taken to the nearest floating-point number first, which
has to exist.  The order compares the exact values.
-/
import Guildhall.Number.Binary64

namespace Guildhall.Number

/-- A whole number or a floating-point one. -/
inductive Quantity
  | whole (n : Int)
  | fractional (x : Binary64)
  deriving DecidableEq, Repr

instance : Coe Int Quantity := ⟨Quantity.whole⟩

namespace Binary64

/-- A finite number as a whole multiple of a power of two that divides it. -/
def multipleOf (power : Int) (negative : Bool) (mantissa : Nat) (exponent : Int) : Int :=
  let size : Int := (mantissa * Nat.pow 2 (exponent - power).toNat : Nat)
  if negative then -size else size

/-- The difference of two numbers, to the nearest one. -/
def minus (x y : Binary64) : Binary64 :=
  match x, y with
  | .nan, _ | _, .nan => .nan
  | .infinite a, .infinite b => if a = b then .nan else .infinite a
  | .infinite a, .finite .. => .infinite a
  | .finite .., .infinite b => .infinite !b
  | .finite a m e, .finite b n f =>
    let power := min e f
    let difference := multipleOf power a m e - multipleOf power b n f
    if difference = 0 then ofRatio (a && !b) 0 1
    else
      ofRatio (difference < 0) (difference.natAbs * Nat.pow 2 power.toNat)
        (Nat.pow 2 (-power).toNat)

/-- The number with the other sign. -/
def negate : Binary64 → Binary64
  | .nan => .nan
  | .infinite negative => .infinite !negative
  | .finite negative m e => .finite (!negative) m e

/-- The sum of two numbers, to the nearest one. -/
def plus (x y : Binary64) : Binary64 := x.minus y.negate

/-- The number nearest to a whole one, if that is not too large. -/
def ofInt? (n : Int) : Option Binary64 :=
  match ofInt n with
  | .infinite _ => none
  | x => some x

end Binary64

namespace Quantity

/-- A quantity as a floating-point number. -/
def toFloat? : Quantity → Option Binary64
  | .whole n => Binary64.ofInt? n
  | .fractional x => some x

/-- The difference of two quantities. -/
def minus? : Quantity → Quantity → Option Quantity
  | .whole a, .whole b => some (.whole (a - b))
  | a, b => do return .fractional ((← a.toFloat?).minus (← b.toFloat?))

/-- The sum of two quantities. -/
def plus? : Quantity → Quantity → Option Quantity
  | .whole a, .whole b => some (.whole (a + b))
  | a, b => do return .fractional ((← a.toFloat?).plus (← b.toFloat?))

/-- The exact value of a finite quantity, as a quotient. -/
def ratio? : Quantity → Option (Int × Nat)
  | .whole n => some (n, 1)
  | .fractional (.finite negative m e) =>
    let (a, b) := Binary64.ratio m e
    some (if negative then -(a : Int) else a, b)
  | .fractional _ => none

/-- Whether a quantity is less than another one.  What is not a number is
neither less nor more than anything. -/
def isBelow (x y : Quantity) : Bool :=
  match x, y with
  | .fractional .nan, _ | _, .fractional .nan => false
  | .fractional (.infinite a), .fractional (.infinite b) => a && !b
  | .fractional (.infinite a), _ => a
  | _, .fractional (.infinite b) => !b
  | x, y =>
    match x.ratio?, y.ratio? with
    | some (a, b), some (c, d) => a * d < c * b
    | _, _ => false

end Quantity

end Guildhall.Number
