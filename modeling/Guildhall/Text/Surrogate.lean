/-
Guildhall/Text/Surrogate.lean

Sixteen-bit units.  A character beyond them is a pair of surrogates, and
half a pair is no character; still, escapes and bytes can name one.  What
is read with such a half is a torn text.  It keeps the half in one place,
under a stand-in from the private code points at the very end, and
`codePoint` tells its number.  In any other text these code points are
characters like all the rest.
-/

namespace Guildhall.Text

/-- The first units of a pair. -/
def isHighSurrogate (n : Nat) : Bool := 0xD800 ≤ n && n ≤ 0xDBFF

/-- The second units of a pair. -/
def isLowSurrogate (n : Nat) : Bool := 0xDC00 ≤ n && n ≤ 0xDFFF

/-- The units of a pair. -/
def isSurrogate (n : Nat) : Bool := 0xD800 ≤ n && n ≤ 0xDFFF

/-- The character of a pair. -/
def pairChar (high low : Nat) : Char :=
  Char.ofNat (0x10000 + (high - 0xD800) * 0x400 + (low - 0xDC00))

/-- How far the stand-in of a half is from it. -/
def halfOffset : Nat := 0x100000

/-- The character of a number, a stand-in for half a pair. -/
def ofCodePoint (n : Nat) : Char :=
  if isSurrogate n then Char.ofNat (halfOffset + n) else Char.ofNat n

/-- Whether a character of a torn text stands for half a pair. -/
def isHalf (c : Char) : Bool := isSurrogate (c.toNat - halfOffset)

/-- The number of a character of a torn text. -/
def codePoint (c : Char) : Nat := if isHalf c then c.toNat - halfOffset else c.toNat

/-- Whether half a pair stands in what was read with halves. -/
def hasHalf (s : String) : Bool := s.toList.any isHalf

end Guildhall.Text
