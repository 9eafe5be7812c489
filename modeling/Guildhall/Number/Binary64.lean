/-
Guildhall/Number/Binary64.lean

Binary floating-point numbers of 64 bits, as exact values.  A finite number
is a sign, a mantissa below 2^53 and a power of two; `ofRatio` gives the one
nearest to a quotient, the even one of two, and everything else that is
needed here (reading a decimal, whole parts, the fraction) is exact
arithmetic on naturals.  Nothing uses the machine's own floats, so all of
it can be reasoned about.  Powers are written with `Nat.pow`, which means the
same whatever else is imported.
-/
import Guildhall.Number.Rounding
import Guildhall.Text.Numeral

namespace Guildhall.Number

/-- A number of 64 bits.  The finite ones are `± mantissa * 2 ^ exponent`. -/
inductive Binary64
  | nan
  | infinite (negative : Bool)
  | finite (negative : Bool) (mantissa : Nat) (exponent : Int)
  deriving DecidableEq, Repr

namespace Binary64

/-! ### Rounding to the nearest number -/

/-- The greatest power of two that is no more than the quotient of two
positive numbers. -/
def powerBelow (a b : Nat) : Int :=
  let e : Int := (a.log2 : Int) - (b.log2 : Int)
  if b * Nat.pow 2 e.toNat ≤ a * Nat.pow 2 (-e).toNat then e else e - 1

/-- The number nearest to a quotient, with the given sign. -/
def ofRatio (negative : Bool) (a b : Nat) : Binary64 :=
  if a = 0 then .finite negative 0 (-1074)
  else
    let e := max (powerBelow a b - 52) (-1074)
    let m := roundDiv (a * Nat.pow 2 (-e).toNat) (b * Nat.pow 2 e.toNat)
    if m = Nat.pow 2 53 then
      if e < 971 then .finite negative (Nat.pow 2 52) (e + 1) else .infinite negative
    else if e ≤ 971 then .finite negative m e
    else .infinite negative

/-- The number nearest to a whole number. -/
def ofInt (n : Int) : Binary64 := ofRatio (n < 0) n.natAbs 1

/-- How many decimal digits a number has. -/
def digitCount (n : Nat) : Nat := (Text.Numeral.natDigits n).length

/-- The number nearest to `± digits * 10 ^ exponent`.  What is far out of
range is decided by its size alone. -/
def ofDecimal (negative : Bool) (digits : Nat) (exponent : Int) : Binary64 :=
  if digits = 0 then .finite negative 0 (-1074)
  else
    let size := exponent + digitCount digits
    if size > 310 then .infinite negative
    else if size < -400 then .finite negative 0 (-1074)
    else ofRatio negative (digits * Nat.pow 10 exponent.toNat) (Nat.pow 10 (-exponent).toNat)

/-! ### Parts of a number -/

/-- The absolute value of a finite number, as a quotient. -/
def ratio (mantissa : Nat) (exponent : Int) : Nat × Nat :=
  (mantissa * Nat.pow 2 exponent.toNat, Nat.pow 2 (-exponent).toNat)

/-- The whole part of the absolute value. -/
def wholePart (mantissa : Nat) (exponent : Int) : Nat :=
  (ratio mantissa exponent).1 / (ratio mantissa exponent).2

/-- The whole number nearest to the absolute value of a finite number; zero for the
others. -/
def nearestWhole : Binary64 → Nat
  | .finite _ m e => roundDiv (ratio m e).1 (ratio m e).2
  | _ => 0

/-- A finite number without its fraction; `none` for the others. -/
def truncate? : Binary64 → Option Int
  | .finite negative m e =>
    some (if negative then -(wholePart m e : Int) else (wholePart m e : Int))
  | _ => none

/-- The finite numbers without a fraction. -/
def isWhole : Binary64 → Bool
  | .finite _ m e => (ratio m e).1 % (ratio m e).2 == 0
  | _ => false

/-- The two zeros. -/
def isZero : Binary64 → Bool
  | .finite _ m _ => m == 0
  | _ => false

/-! ### Reading -/

/-- The value of a row of ASCII digits and how many there are; the rest of
the text. -/
def readDigits (value count : Nat) : List Char → Nat × Nat × List Char
  | c :: rest =>
    if c.isDigit then readDigits (10 * value + (c.toNat - 48)) (count + 1) rest
    else (value, count, c :: rest)
  | [] => (value, count, [])

/-- Reads the exponent of a decimal, if there is one; nothing may follow. -/
def readExponent : List Char → Option Int
  | [] => some 0
  | mark :: rest =>
    if mark == 'e' || mark == 'E' then
      let signed := match rest with
        | '-' :: ds => (true, ds)
        | '+' :: ds => (false, ds)
        | ds => (false, ds)
      let (value, count, after) := readDigits 0 0 signed.2
      if count = 0 || !after.isEmpty then none
      else some (if signed.1 then -(value : Int) else (value : Int))
    else none

/-- Reads an unsigned number: `inf`, `nan` or a decimal with an optional
fraction and exponent. -/
def readUnsigned (negative : Bool) (cs : List Char) : Option Binary64 :=
  if cs == ['i', 'n', 'f'] then some (.infinite negative)
  else if cs == ['n', 'a', 'n'] then some .nan
  else
    let (whole, count, rest) := readDigits 0 0 cs
    let (digits, places, rest) := match rest with
      | '.' :: rest =>
        let (value, places, rest) := readDigits whole 0 rest
        (value, places, rest)
      | rest => (whole, 0, rest)
    if count + places = 0 then none
    else (readExponent rest).map fun e => ofDecimal negative digits (e - places)

/-- Reads a number. -/
def read? (s : String) : Option Binary64 :=
  match s.toList with
  | '-' :: cs => readUnsigned true cs
  | cs => readUnsigned false cs

end Binary64

end Guildhall.Number
