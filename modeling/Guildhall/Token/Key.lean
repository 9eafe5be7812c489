/-
Guildhall/Token/Key.lean

Keys and signing algorithms.  A key is a text or plain bytes; a text is
used as its UTF-8 bytes.  The keyed digests sign and check with one secret,
`none` signs nothing, and the public-key algorithms are known by name only.
How these sign and check is up to the library that tokens are made with
(`Library`), and so is what it does with JSON that is nested too deeply.
-/
import Guildhall.Digest.Hmac
import Guildhall.Text.Utf8

namespace Guildhall.Token

/-- A signing or verification key. -/
inductive Key
  | text (s : String)
  | bytes (b : List UInt8)
  deriving DecidableEq, Repr

/-- The bytes of a key. -/
def Key.octets : Key → List UInt8
  | .text s => Text.Utf8.bytes s
  | .bytes b => b

/-- Whether a key is empty. -/
def Key.isEmpty : Key → Bool
  | .text s => s.isEmpty
  | .bytes b => b.isEmpty

/-- How a token is signed. -/
inductive Algorithm
  /-- A keyed digest with one secret. -/
  | keyed (hash : Digest.Hash)
  /-- No signature. -/
  | unsigned
  /-- A pair of a private and a public key. -/
  | publicKey

/-- The digest of 256 bits. -/
def hash256 : Digest.Hash := ⟨64, Digest.sha256⟩

/-- The digest of 384 bits. -/
def hash384 : Digest.Hash := ⟨128, Digest.sha384⟩

/-- The digest of 512 bits. -/
def hash512 : Digest.Hash := ⟨128, Digest.sha512⟩

/-- The names of the public-key algorithms. -/
def publicKeyNames : List String :=
  ["RS256", "RS384", "RS512", "ES256", "ES256K", "ES384", "ES521", "ES512", "PS256", "PS384",
    "PS512", "EdDSA"]

/-- The algorithm of a name; letter case counts. -/
def Algorithm.ofName? (name : String) : Option Algorithm :=
  if name = "HS256" then some (.keyed hash256)
  else if name = "HS384" then some (.keyed hash384)
  else if name = "HS512" then some (.keyed hash512)
  else if name = "none" then some .unsigned
  else if publicKeyNames.contains name then some .publicKey
  else none

/-- What the library that tokens are made with decides. -/
structure Library where
  /-- The signature of a text by the public-key algorithm of a name, if the key goes with it. -/
  sign : String → Key → List Char → Option (List UInt8) := fun _ _ _ => none
  /-- Whether a signature is that of a text by the public-key algorithm of a name; there is no
  answer if the key cannot be read. -/
  verify : String → Key → List Char → List UInt8 → Option Bool := fun _ _ _ _ => none
  /-- Whether JSON that is nested too deeply is refused, as what is no JSON is.  A library that
  does not refuse it breaks down at it. -/
  refusesDepth : Bool := true

end Guildhall.Token
