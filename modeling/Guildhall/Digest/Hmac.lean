/-
Guildhall/Digest/Hmac.lean

Keyed message digests: a digest of the key and of a digest of the key and
the message.  A key longer than a block is replaced by its own digest.
-/
import Guildhall.Digest.Sha2

namespace Guildhall.Digest

/-- A message digest and the length of its blocks in bytes. -/
structure Hash where
  blockSize : Nat
  digest : List UInt8 → List UInt8

/-- A key filled up with zeros to the length of a block. -/
def Hash.blockKey (hash : Hash) (key : List UInt8) : List UInt8 :=
  let key := if key.length > hash.blockSize then hash.digest key else key
  key ++ List.replicate (hash.blockSize - key.length) 0

/-- The keyed digest of a message. -/
def Hash.keyed (hash : Hash) (key message : List UInt8) : List UInt8 :=
  let key := hash.blockKey key
  hash.digest (key.map (· ^^^ 0x5C) ++ hash.digest (key.map (· ^^^ 0x36) ++ message))

end Guildhall.Digest
