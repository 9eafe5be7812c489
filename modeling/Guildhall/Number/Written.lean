/-
Guildhall/Number/Written.lean

The written forms of a binary number.  `display` writes the fewest digits
that read back, positional below 10^16 and from 10^-4 on.  `general`,
`fixed` and `scientific` write a given number of digits; `general` drops
the zeros at the end and chooses the form by the size of the number.
`columnChars` is the form in which a storage compares a number with texts.
-/
import Guildhall.Number.Shortest

namespace Guildhall.Number.Binary64

open Text.Numeral (natDigits)

/-! ### Placing the point -/

/-- A row of digits without its trailing zeros. -/
def dropZeros (ds : List Char) : List Char := (ds.reverse.dropWhile (· == '0')).reverse

/-- Digits with the decimal point after `whole` of them, zeros filled in on
either side; the part before the point and the part after it. -/
def splitDigits (ds : List Char) (whole : Int) : List Char × List Char :=
  if whole ≤ 0 then (['0'], List.replicate (-whole).toNat '0' ++ ds)
  else if (ds.length : Int) ≤ whole then
    (ds ++ List.replicate (whole.toNat - ds.length) '0', [])
  else (ds.take whole.toNat, ds.drop whole.toNat)

/-- A whole part and a fraction, without the point if the fraction is empty. -/
def joinPoint (parts : List Char × List Char) : List Char :=
  if parts.2.isEmpty then parts.1 else parts.1 ++ '.' :: parts.2

/-- An exponent: a sign and at least two digits. -/
def exponentText (e : Int) : List Char :=
  'e' :: (if e < 0 then '-' else '+') :: Text.Numeral.padded 2 e.natAbs

/-- Digits with the point after the first one, and the exponent. -/
def pointAfterFirst (ds : List Char) (e : Int) : List Char :=
  joinPoint (splitDigits ds 1) ++ exponentText e

/-! ### Signs and special values -/

/-- Writes the sign and the special values, and the absolute value by `f`. -/
def signed (f : Nat → Int → List Char) : Binary64 → List Char
  | .nan => ['n', 'a', 'n']
  | .infinite negative => if negative then ['-', 'i', 'n', 'f'] else ['i', 'n', 'f']
  | .finite negative m e => if negative then '-' :: f m e else f m e

/-- The fraction of a written number, a zero if it is empty. -/
def orZero (ds : List Char) : List Char := if ds.isEmpty then ['0'] else ds

/-- The fewest digits that read back.  Numbers from 10^16 on and below
10^-4 are written with an exponent; a positional one has a fraction. -/
def displayChars : Binary64 → List Char :=
  signed fun m e =>
    if m = 0 then ['0', '.', '0']
    else
      let (digits, power) := shortest m e
      let ds := natDigits digits
      let whole := power + ds.length
      if -4 < whole && whole ≤ 16 then
        let parts := splitDigits (dropZeros ds) whole
        joinPoint (parts.1, orZero parts.2)
      else pointAfterFirst (dropZeros ds) (whole - 1)

/-- The fewest digits that read back, as a string. -/
def display (x : Binary64) : String := String.ofList (displayChars x)

/-- At most fifteen significant digits, a half rounded up, and always a fraction.
Numbers from 10^15 on and below 10^-4 are written with an exponent. -/
def columnChars : Binary64 → List Char
  | .infinite negative => (if negative then ['-'] else []) ++ ['I', 'n', 'f']
  | x => x |> signed fun m e =>
    if m = 0 then ['0', '.', '0']
    else
      let (digits, power) := roundedBy roundDivUp 15 (ratio m e).1 (ratio m e).2
      let ds := natDigits digits
      let leading := power + ds.length - 1
      if -4 ≤ leading && leading < 15 then
        let parts := splitDigits (dropZeros ds) (leading + 1)
        joinPoint (parts.1, orZero parts.2)
      else
        let parts := splitDigits (dropZeros ds) 1
        joinPoint (parts.1, orZero parts.2) ++ exponentText leading

/-- A given number of significant digits; `trim` treats the fraction. -/
def generalBy (trim : List Char → List Char) (count : Nat) : Binary64 → List Char :=
  signed fun m e =>
    let count := max count 1
    if m = 0 then joinPoint (['0'], trim (List.replicate (count - 1) '0'))
    else
      let (digits, power) := rounded count (ratio m e).1 (ratio m e).2
      let ds := natDigits digits
      let leading := power + ds.length - 1
      if -4 ≤ leading && leading < count then
        let parts := splitDigits ds (leading + 1)
        joinPoint (parts.1, trim parts.2)
      else
        let parts := splitDigits ds 1
        joinPoint (parts.1, trim parts.2) ++ exponentText leading

/-- A given number of significant digits, without zeros at the end. -/
def general (count : Nat) : Binary64 → List Char := generalBy dropZeros count

/-- A given number of significant digits, all of them written. -/
def generalFull (count : Nat) : Binary64 → List Char := generalBy id count

/-- Puts a point after the digits of a written number that has none. -/
def withPoint : List Char → List Char
  | [] => ['.']
  | c :: rest =>
    if c = '.' then '.' :: rest
    else if c = 'e' then '.' :: 'e' :: rest
    else if c.isDigit || c = '-' then c :: withPoint rest
    else c :: rest

/-- A given number of decimal places. -/
def fixed (places : Nat) : Binary64 → List Char :=
  signed fun m e =>
    let (a, b) := ratio m e
    let ds := Text.Numeral.padded (places + 1) (roundDiv (a * Nat.pow 10 places) b)
    joinPoint (ds.take (ds.length - places), ds.drop (ds.length - places))

/-- One digit before the point, a given number after it, and the exponent. -/
def scientific (places : Nat) : Binary64 → List Char :=
  signed fun m e =>
    if m = 0 then joinPoint (['0'], List.replicate places '0') ++ exponentText 0
    else
      let (digits, power) := rounded (places + 1) (ratio m e).1 (ratio m e).2
      pointAfterFirst (natDigits digits) (power + places)

end Guildhall.Number.Binary64
