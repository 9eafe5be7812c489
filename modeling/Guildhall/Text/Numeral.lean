/-
Guildhall/Text/Numeral.lean

Whole numbers as text.  Writing gives plain decimal digits.  Reading is
more liberal: white space around the number, a sign, decimal digits of any
script and single underscores between digits are accepted.  No number of more
than `digitLimit` digits is read, or written where a limit is kept.
-/
import Guildhall.Text.Blank
import Guildhall.Text.Digit

namespace Guildhall.Text.Numeral

/-! ### Writing -/

/-- The digit of a value below ten. -/
def digit (n : Nat) : Char := Char.ofNat (48 + n)

/-- The decimal digits of a number, in front of a text. -/
def digitsOnto (n : Nat) (rest : List Char) : List Char :=
  if n < 10 then digit n :: rest else digitsOnto (n / 10) (digit (n % 10) :: rest)

/-- The decimal digits of a natural number. -/
def natDigits (n : Nat) : List Char := digitsOnto n []

/-- A whole number in decimal digits, with a minus sign if it is below zero. -/
def intDigits (n : Int) : List Char :=
  if n < 0 then '-' :: natDigits n.natAbs else natDigits n.natAbs

/-- A whole number as a string. -/
def write (n : Int) : String := String.ofList (intDigits n)

/-- A natural number in at least `width` digits. -/
def padded (width n : Nat) : List Char :=
  let ds := natDigits n
  List.replicate (width - ds.length) '0' ++ ds

theorem digitsOnto_eq_append (n : Nat) (rest : List Char) :
    digitsOnto n rest = natDigits n ++ rest := by
  unfold natDigits
  induction n using Nat.strongRecOn generalizing rest with
  | _ n ih =>
    rw [digitsOnto.eq_def n rest, digitsOnto.eq_def n []]
    by_cases h : n < 10
    · simp [h]
    · rw [if_neg h, if_neg h, ih (n / 10) (by omega), ih (n / 10) (by omega) [_],
        List.append_assoc, List.singleton_append]

/-- The greatest number of digits that is read or written. -/
def digitLimit : Nat := 4300

/-- Whether a number has few enough digits to be written. -/
def isWritable (n : Int) : Bool := (natDigits n.natAbs).length ≤ digitLimit

/-! ### Reading -/

/-- Why a text is no number. -/
inductive Fault
  | malformed
  | tooLong (digits : Nat)
  deriving DecidableEq, Repr

/-- Reads digits with single underscores between them, after at least one
digit: the value, the number of digits and the rest of the text.  An
underscore that no digit follows is a fault. -/
def readDigits (value count : Nat) : List Char → Option (Nat × Nat × List Char)
  | '_' :: c :: rest =>
    match digitValue? c with
    | some d => readDigits (10 * value + d) (count + 1) rest
    | none => none
  | c :: rest =>
    match digitValue? c with
    | some d => readDigits (10 * value + d) (count + 1) rest
    | none => if c == '_' then none else some (value, count, c :: rest)
  | [] => some (value, count, [])

/-- Reads an unsigned number that fills the text. -/
def readNat : List Char → Except Fault Nat
  | [] => .error .malformed
  | c :: rest =>
    match digitValue? c with
    | none => .error .malformed
    | some d =>
      match readDigits d 1 rest with
      | none => .error .malformed
      | some (value, count, rest) =>
        if count > digitLimit then .error (.tooLong count)
        else if rest.isEmpty then .ok value
        else .error .malformed

/-- Reads a whole number. -/
def read (s : String) : Except Fault Int :=
  match trimBy isNumeralBlank s.toList with
  | '-' :: rest => (readNat rest).map fun n => -(n : Int)
  | '+' :: rest => (readNat rest).map Int.ofNat
  | rest => (readNat rest).map Int.ofNat

end Guildhall.Text.Numeral
