/-
Guildhall/Text/Quoted.lean

A text in quotes, as it is shown inside messages: every character that is
not printable, every backslash and the quote itself is written as an
escape, so the quoted form is one line and can be read back.  Bytes are
quoted in the same way.
-/
import Guildhall.Text.Hex
import Guildhall.Text.Printable
import Guildhall.Text.Surrogate

namespace Guildhall.Text

/-- The quote around a text: double exactly if the text holds a single
quote and no double one. -/
def quoteMark (cs : List Char) : Char :=
  if cs.contains '\'' && !cs.contains '"' then '"' else '\''

/-- A character as an escape with the digits of its number: two, four or eight. -/
def numberEscape (n : Nat) : List Char :=
  if n < 0x100 then '\\' :: 'x' :: hexDigits 2 n
  else if n < 0x10000 then '\\' :: 'u' :: hexDigits 4 n
  else '\\' :: 'U' :: hexDigits 8 n

/-- One character as it stands between the given quotes; `number` tells the numbers
of characters. -/
def quoteChar (number : Char → Nat) (mark : Char) (c : Char) : List Char :=
  if c == mark || c == '\\' then ['\\', c]
  else if c == '\n' then ['\\', 'n']
  else if c == '\r' then ['\\', 'r']
  else if c == '\t' then ['\\', 't']
  else if isPrintable c then [c]
  else numberEscape (number c)

/-- A text in quotes, by the numbers of its characters. -/
def quoteBy (number : Char → Nat) (s : String) : String :=
  let cs := s.toList
  let mark := quoteMark cs
  String.ofList (mark :: cs.flatMap (quoteChar number mark) ++ [mark])

/-- A text in quotes. -/
def quote (s : String) : String := quoteBy Char.toNat s

/-- A torn text in quotes. -/
def quoteTorn (s : String) : String := quoteBy codePoint s

/-- Bytes in quotes, after the letter that tells them from a text: what is no
printable ASCII character is written as an escape. -/
def quoteBytes (bytes : List UInt8) : List Char :=
  let cs := bytes.map fun b => Char.ofNat b.toNat
  let mark := quoteMark cs
  let quoteByte (c : Char) : List Char :=
    if c.toNat < 0x80 then quoteChar Char.toNat mark c else numberEscape c.toNat
  'b' :: mark :: cs.flatMap quoteByte ++ [mark]

end Guildhall.Text
