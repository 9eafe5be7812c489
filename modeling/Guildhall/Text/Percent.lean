/-
Guildhall/Text/Percent.lean

Percent escapes: a percent sign and two hexadecimal digits stand for a
byte, and bytes in a row for the text that they are in UTF-8.  A percent
sign without two digits after it stands for itself.
-/
import Guildhall.Text.Hex
import Guildhall.Text.Utf8

namespace Guildhall.Text

/-- Resolves the escapes of a text.  The bytes of neighbouring characters in
ASCII are read together, as UTF-8; `run` holds those that are waiting, the
last one first. -/
def unescapeOnto (run : List UInt8) : List Char → List Char
  | [] => Utf8.decodeReplacing run.reverse
  | '%' :: a :: b :: rest =>
    match hexValue? a, hexValue? b with
    | some high, some low => unescapeOnto (UInt8.ofNat (16 * high + low) :: run) rest
    | _, _ => unescapeOnto (37 :: run) (a :: b :: rest)
  | c :: rest =>
    if c.toNat < 0x80 then unescapeOnto (UInt8.ofNat c.toNat :: run) rest
    else Utf8.decodeReplacing run.reverse ++ c :: unescapeOnto [] rest

/-- Resolves the escapes of a text. -/
def unescape (cs : List Char) : List Char := unescapeOnto [] cs

/-- A byte as an escape, with upper-case digits. -/
def escapeByte (b : UInt8) : List Char := '%' :: (hexDigits 2 b.toNat).map Char.toUpper

end Guildhall.Text
