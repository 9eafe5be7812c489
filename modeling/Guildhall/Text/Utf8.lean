/-
Guildhall/Text/Utf8.lean

Text as UTF-8 bytes.  `encode` writes characters as bytes.  Reading runs
over the bytes with the unfinished character, if any, in hand (`scan`) and
marks every ill-formed piece; `decode?` refuses a text with such a piece
and `decodeReplacing` puts the replacement character in its place.  The
three bytes of half a surrogate pair are ill-formed too, except where a
text may hold halves.
-/
import Guildhall.Text.Surrogate

namespace Guildhall.Text.Utf8

/-! ### Writing -/

/-- A continuation byte, from six bits. -/
def continuation (n : Nat) : UInt8 := UInt8.ofNat (0x80 + n % 64)

/-- The bytes of one character. -/
def encodeChar (c : Char) : List UInt8 :=
  let n := c.toNat
  if n < 0x80 then [UInt8.ofNat n]
  else if n < 0x800 then [UInt8.ofNat (0xC0 + n / 64), continuation n]
  else if n < 0x10000 then
    [UInt8.ofNat (0xE0 + n / 4096), continuation (n / 64), continuation n]
  else
    [UInt8.ofNat (0xF0 + n / 262144), continuation (n / 4096), continuation (n / 64),
      continuation n]

/-- The bytes of a text. -/
def encode (cs : List Char) : List UInt8 := cs.flatMap encodeChar

/-- The bytes of a string. -/
def bytes (s : String) : List UInt8 := encode s.toList

/-! ### Reading -/

/-- A character of which some bytes are still to come. -/
structure Pending where
  /-- How many bytes are to come. -/
  left : Nat
  /-- The bits read so far. -/
  bits : Nat
  /-- The least next byte. -/
  low : Nat
  /-- The greatest next byte. -/
  high : Nat

/-- What the first byte of a character says. -/
inductive Lead
  | whole (c : Char)
  | partly (p : Pending)
  | illFormed

/-- The bounds on the second byte rule out longer forms than needed, what lies
beyond U+10FFFF and, unless halves are read, the surrogates. -/
def lead (halves : Bool) (b : UInt8) : Lead :=
  let n := b.toNat
  if n < 0x80 then .whole (Char.ofNat n)
  else if n < 0xC2 then .illFormed
  else if n < 0xE0 then .partly ⟨1, n - 0xC0, 0x80, 0xBF⟩
  else if n = 0xE0 then .partly ⟨2, 0, 0xA0, 0xBF⟩
  else if n = 0xED then .partly ⟨2, 0xD, 0x80, if halves then 0xBF else 0x9F⟩
  else if n < 0xF0 then .partly ⟨2, n - 0xE0, 0x80, 0xBF⟩
  else if n = 0xF0 then .partly ⟨3, 0, 0x90, 0xBF⟩
  else if n < 0xF4 then .partly ⟨3, n - 0xF0, 0x80, 0xBF⟩
  else if n = 0xF4 then .partly ⟨3, 4, 0x80, 0x8F⟩
  else .illFormed

/-- The characters of a row of bytes, `none` for each ill-formed piece.  A
byte that cannot go on the character in hand ends it and is read anew. -/
def scan (halves : Bool) : Option Pending → List UInt8 → List (Option Char)
  | none, [] => []
  | some _, [] => [none]
  | none, b :: rest =>
    match lead halves b with
    | .whole c => some c :: scan halves none rest
    | .partly p => scan halves (some p) rest
    | .illFormed => none :: scan halves none rest
  | some p, b :: rest =>
    if p.low ≤ b.toNat && b.toNat ≤ p.high then
      let bits := 64 * p.bits + b.toNat % 64
      if p.left ≤ 1 then some (ofCodePoint bits) :: scan halves none rest
      else scan halves (some ⟨p.left - 1, bits, 0x80, 0xBF⟩) rest
    else
      match lead halves b with
      | .whole c => none :: some c :: scan halves none rest
      | .partly q => none :: scan halves (some q) rest
      | .illFormed => none :: none :: scan halves none rest

/-- The text of well-formed bytes. -/
def decode? (halves : Bool) (bytes : List UInt8) : Option (List Char) :=
  (scan halves none bytes).mapM id

/-- The text of any bytes, with U+FFFD for each ill-formed piece. -/
def decodeReplacing (bytes : List UInt8) : List Char :=
  (scan false none bytes).map (·.getD (Char.ofNat 0xFFFD))

@[simp] theorem encode_cons (c : Char) (cs : List Char) :
    encode (c :: cs) = encodeChar c ++ encode cs := rfl

end Guildhall.Text.Utf8
