/-
Guildhall/Text/Encoding.lean

Text of unknown encoding.  A byte order mark at the beginning tells which
one it is; without a mark, the zeros among the first bytes do, for a text
that begins with an ASCII character.  Halves of surrogate pairs can stand
in every encoding; they are read only if the bytes are no text without them.
-/
import Guildhall.Text.Utf8

namespace Guildhall.Text

/-- How text is stored in bytes. -/
inductive Encoding
  | utf8
  | utf16 (bigEndian : Bool)
  | utf32 (bigEndian : Bool)
  deriving DecidableEq, Repr

namespace Encoding

/-- The encoding that the zeros among the first bytes show. -/
def ofZeros : List UInt8 → Encoding
  | 0 :: b :: _ :: _ :: _ => if b = 0 then .utf32 true else .utf16 true
  | _ :: 0 :: c :: d :: _ => if c = 0 && d = 0 then .utf32 false else .utf16 false
  | [0, _] => .utf16 true
  | [_, 0] => .utf16 false
  | _ => .utf8

/-- The encoding of a text, and its bytes without the mark. -/
def detect (bytes : List UInt8) : Encoding × List UInt8 :=
  match bytes with
  | 0 :: 0 :: 0xFE :: 0xFF :: rest => (.utf32 true, rest)
  | 0xFF :: 0xFE :: 0 :: 0 :: rest => (.utf32 false, rest)
  | 0xFE :: 0xFF :: rest => (.utf16 true, rest)
  | 0xFF :: 0xFE :: rest => (.utf16 false, rest)
  | 0xEF :: 0xBB :: 0xBF :: rest => (.utf8, rest)
  | bytes => (ofZeros bytes, bytes)

/-- A number from two bytes. -/
def pair (bigEndian : Bool) (a b : UInt8) : Nat :=
  if bigEndian then 256 * a.toNat + b.toNat else 256 * b.toNat + a.toNat

/-- The units of sixteen bits. -/
def units? (bigEndian : Bool) : List UInt8 → Option (List Nat)
  | [] => some []
  | [_] => none
  | a :: b :: rest => (units? bigEndian rest).map (pair bigEndian a b :: ·)

/-- The character of a number; that of half a pair only if halves are read. -/
def char? (halves : Bool) (n : Nat) : Option Char :=
  if isSurrogate n && !halves then none else some (ofCodePoint n)

/-- The characters of units of sixteen bits: two surrogates that make a pair are
one character, any other unit is one. -/
def ofUnits? (halves : Bool) : List Nat → Option (List Char)
  | [] => some []
  | [unit] => (char? halves unit).map ([·])
  | high :: low :: rest =>
    if isHighSurrogate high && isLowSurrogate low then
      (ofUnits? halves rest).map (pairChar high low :: ·)
    else do
      let c ← char? halves high
      return c :: (← ofUnits? halves (low :: rest))

/-- The characters of numbers of thirty-two bits. -/
def ofQuads? (halves bigEndian : Bool) : List UInt8 → Option (List Char)
  | [] => some []
  | a :: b :: c :: d :: rest =>
    let n :=
      if bigEndian then pair true a b * 65536 + pair true c d
      else pair false c d * 65536 + pair false a b
    if n < 0x110000 then do
      let c ← char? halves n
      return c :: (← ofQuads? halves bigEndian rest)
    else none
  | _ => none

/-- The text of bytes in an encoding. -/
def decode? (halves : Bool) : Encoding → List UInt8 → Option (List Char)
  | .utf8, bytes => Utf8.decode? halves bytes
  | .utf16 bigEndian, bytes => (units? bigEndian bytes).bind (ofUnits? halves)
  | .utf32 bigEndian, bytes => ofQuads? halves bigEndian bytes

end Encoding

/-- The text of bytes in whatever encoding they are, and whether it is torn. -/
def decodeAny? (bytes : List UInt8) : Option (List Char × Bool) :=
  let (encoding, rest) := Encoding.detect bytes
  match encoding.decode? false rest with
  | some cs => some (cs, false)
  | none => (encoding.decode? true rest).map (·, true)

end Guildhall.Text
