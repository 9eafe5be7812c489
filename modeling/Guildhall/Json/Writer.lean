/-
Guildhall/Json/Writer.lean

Writing JSON text, in two styles: `compact` has no blanks and escapes every
character outside printable ASCII, so that it can be carried anywhere;
`spaced` has a blank after each comma and colon and leaves all but the
control characters as they are, so that a line is pleasant to read.  JSON
has no bytes: they are written as a text, in quotes.
-/
import Guildhall.Text.Hex
import Guildhall.Value

namespace Guildhall.Json

open Number

/-- What may differ between two ways to write the same value. -/
structure Style where
  /-- Stands between two items or fields. -/
  comma : List Char
  /-- Stands between the name of a field and its value. -/
  colon : List Char
  /-- One character inside a text. -/
  escapeChar : Char → List Char

/-- The escapes that both styles have: short ones where there are any. -/
def shortEscape (c : Char) : Option (List Char) :=
  if c == '"' then some ['\\', '"']
  else if c == '\\' then some ['\\', '\\']
  else if c == '\n' then some ['\\', 'n']
  else if c == '\r' then some ['\\', 'r']
  else if c == '\t' then some ['\\', 't']
  else if c == '\x0c' then some ['\\', 'f']
  else if c == '\x08' then some ['\\', 'b']
  else none

/-- An escape by the number of a sixteen-bit unit. -/
def unitEscape (n : Nat) : List Char := '\\' :: 'u' :: Text.hexDigits 4 n

/-- A character in ASCII; one beyond sixteen bits is a pair of units. -/
def escapeAscii (c : Char) : List Char :=
  match shortEscape c with
  | some cs => cs
  | none =>
    let n := c.toNat
    if 0x20 ≤ n && n ≤ 0x7E then [c]
    else if n < 0x10000 then unitEscape n
    else unitEscape (0xD800 + (n - 0x10000) / 0x400) ++
      unitEscape (0xDC00 + (n - 0x10000) % 0x400)

/-- A character as it is, if it is no control character. -/
def escapeControl (c : Char) : List Char :=
  match shortEscape c with
  | some cs => cs
  | none => if c.toNat < 0x20 then unitEscape c.toNat else [c]

/-- No blanks and ASCII only. -/
def compact : Style := ⟨[','], [':'], escapeAscii⟩

/-- Blanks after commas and colons, and all characters. -/
def spaced : Style := ⟨[',', ' '], [':', ' '], escapeControl⟩

/-- A text in quotes. -/
def writeText (style : Style) (s : String) : List Char :=
  '"' :: (s.toList.flatMap style.escapeChar ++ ['"'])

/-- A torn text in quotes; a half is written as a unit. -/
def writeTorn (style : Style) (s : String) : List Char :=
  let escapeChar (c : Char) : List Char :=
    if Text.isHalf c then unitEscape (Text.codePoint c) else style.escapeChar c
  '"' :: (s.toList.flatMap escapeChar ++ ['"'])

/-- A floating-point number; the special ones are words. -/
def writeFloat : Binary64 → List Char
  | .nan => "NaN".toList
  | .infinite negative => if negative then "-Infinity".toList else "Infinity".toList
  | x => x.displayChars

mutual

/-- A value in a style. -/
def writeChars (style : Style) : Value → List Char
  | .null => "null".toList
  | .bool true => "true".toList
  | .bool false => "false".toList
  | .int n => Text.Numeral.intDigits n
  | .float x => writeFloat x
  | .text s => writeText style s
  | .torn s => writeTorn style s
  | .bytes b => writeText style (String.ofList (Text.quoteBytes b))
  | .list items => '[' :: (writeItems style items ++ [']'])
  | .object fields => '\x7b' :: (writeFields style fields ++ ['\x7d'])

/-- The items of a list. -/
def writeItems (style : Style) : List Value → List Char
  | [] => []
  | v :: rest =>
    writeChars style v ++ (if rest.isEmpty then [] else style.comma) ++ writeItems style rest

/-- The fields of an object. -/
def writeFields (style : Style) : List (String × Value) → List Char
  | [] => []
  | (name, v) :: rest =>
    writeText style name ++ style.colon ++ writeChars style v ++
      (if rest.isEmpty then [] else style.comma) ++ writeFields style rest

end

/-- A value in a style, as a string. -/
def write (style : Style) (v : Value) : String := String.ofList (writeChars style v)

end Guildhall.Json
