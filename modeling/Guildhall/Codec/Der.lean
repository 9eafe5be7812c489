/-
Guildhall/Codec/Der.lean

Nested binary records.  An element is a tag, the length of its content and
the content; the content of a sequence is a row of elements again.  Lengths
are definite and written in as few bytes as possible.
-/

namespace Guildhall.Codec.Der

/-- An element of a record. -/
structure Element where
  tag : Nat
  content : List UInt8
  deriving DecidableEq, Repr

/-! ### Tags -/

/-- The tag of a whole number. -/
def numberTag : Nat := 0x02

/-- The tag of a row of bits. -/
def bitsTag : Nat := 0x03

/-- The tag of a row of bytes. -/
def bytesTag : Nat := 0x04

/-- The tag of the name of a kind of thing. -/
def nameTag : Nat := 0x06

/-- The tag of a sequence of elements. -/
def sequenceTag : Nat := 0x30

/-! ### Reading -/

/-- The number that bytes stand for, the most significant one first. -/
def ofBytes (bytes : List UInt8) : Nat := bytes.foldl (fun n b => 256 * n + b.toNat) 0

/-- Reads a length: one byte below 128, or the count of the bytes that hold it. -/
def readLength : List UInt8 → Option (Nat × List UInt8)
  | [] => none
  | b :: rest =>
    if b < 0x80 then some (b.toNat, rest)
    else
      let count := b.toNat - 0x80
      let size := ofBytes (rest.take count)
      if rest.length < count || size < 0x80 || rest.head? == some 0 then none
      else some (size, rest.drop count)

/-- Reads the first element. -/
def readElement : List UInt8 → Option (Element × List UInt8)
  | [] => none
  | tag :: rest => do
    let (size, rest) ← readLength rest
    if rest.length < size then none
    else some ({ tag := tag.toNat, content := rest.take size }, rest.drop size)

/-- Reads elements to the end; `room` bounds their number. -/
def elementsWithin : (room : Nat) → List UInt8 → Option (List Element)
  | _, [] => some []
  | 0, _ => none
  | room + 1, bytes => do
    let (e, rest) ← readElement bytes
    return e :: (← elementsWithin room rest)

/-- The elements that fill a row of bytes. -/
def elements? (bytes : List UInt8) : Option (List Element) := elementsWithin bytes.length bytes

/-- The elements of a sequence. -/
def Element.parts? (e : Element) : Option (List Element) :=
  if e.tag = sequenceTag then elements? e.content else none

/-- The elements of the one sequence that fills a row of bytes. -/
def sequence? (bytes : List UInt8) : Option (List Element) :=
  match elements? bytes with
  | some [e] => e.parts?
  | _ => none

end Guildhall.Codec.Der
