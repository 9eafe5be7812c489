/-
Guildhall/Token/Secret.lean

What must not be used as a shared secret.  Everybody may know a public key,
so a token that is signed with one as if it were a secret proves nothing.
`mistaken?` finds the secrets that are written forms of other keys: blocks
of text between boundary lines, lines of a remote shell, binary records and
JSON objects that describe a key.
-/
import Guildhall.Codec.Der
import Guildhall.Json.Reader
import Guildhall.Text.Encoding
import Guildhall.Text.Part

namespace Guildhall.Token.Secret

open Codec

/-! ### Blocks of text -/

/-- What may stand between boundary lines. -/
def blockNames : List String :=
  ["CERTIFICATE", "TRUSTED CERTIFICATE", "PRIVATE KEY", "PUBLIC KEY", "ENCRYPTED PRIVATE KEY",
    "OPENSSH PRIVATE KEY", "DSA PRIVATE KEY", "RSA PRIVATE KEY", "RSA PUBLIC KEY",
    "EC PRIVATE KEY", "DH PARAMETERS", "NEW CERTIFICATE REQUEST", "CERTIFICATE REQUEST",
    "SSH2 PUBLIC KEY", "SSH2 ENCRYPTED PRIVATE KEY", "X509 CRL"]

/-- What follows a dash or a blank. -/
def afterDash? : List Char → Option (List Char)
  | c :: rest => if c == '-' || c == ' ' then some rest else none
  | [] => none

/-- What follows a boundary: dashes, the words and dashes. -/
def afterBoundary? (words : String) (cs : List Char) : Option (List Char) := do
  let rest ← afterDash? (← Text.after? "----".toList cs)
  let rest ← afterDash? (← Text.after? words.toList rest)
  Text.after? "----".toList rest

/-- Whether the end of a block stands somewhere in a text. -/
def holdsEnd (name : String) : List Char → Bool
  | [] => false
  | c :: cs => (afterBoundary? ("END " ++ name) (c :: cs)).isSome || holdsEnd name cs

/-- Whether a block that is not empty stands somewhere in a text. -/
def holdsBlock (name : String) : List Char → Bool
  | [] => false
  | c :: cs =>
    (match afterBoundary? ("BEGIN " ++ name) (c :: cs) with
      | some (_ :: rest) => holdsEnd name rest
      | _ => false) || holdsBlock name cs

/-! ### Lines of a remote shell -/

/-- The words with which the public keys of a remote shell begin. -/
def shellWords : List String :=
  ["ssh-ed25519", "ssh-rsa", "ssh-dss", "ecdsa-sha2-nistp256", "ecdsa-sha2-nistp384",
    "ecdsa-sha2-nistp521"]

/-! ### Binary records -/

/-- The algorithms whose public keys have a fixed number of bytes. -/
def plainAlgorithms : List (List UInt8 × Nat) :=
  [([0x2B, 0x65, 0x6E], 32), ([0x2B, 0x65, 0x6F], 56), ([0x2B, 0x65, 0x70], 32),
    ([0x2B, 0x65, 0x71], 57)]

/-- The other algorithms of public keys. -/
def otherAlgorithms : List (List UInt8) :=
  [[0x2A, 0x86, 0x48, 0x86, 0xF7, 0x0D, 0x01, 0x01, 0x01],
    [0x2A, 0x86, 0x48, 0x86, 0xF7, 0x0D, 0x01, 0x01, 0x0A],
    [0x2A, 0x86, 0x48, 0xCE, 0x3D, 0x02, 0x01], [0x2A, 0x86, 0x48, 0xCE, 0x38, 0x04, 0x01],
    [0x2A, 0x86, 0x48, 0x86, 0xF7, 0x0D, 0x01, 0x03, 0x01],
    [0x2A, 0x86, 0x48, 0xCE, 0x3E, 0x02, 0x01]]

/-- The name of the algorithm that a record begins with. -/
def algorithmOf? (e : Der.Element) : Option (List UInt8) :=
  match e.parts? with
  | some (name :: _) => if name.tag = Der.nameTag then some name.content else none
  | _ => none

/-- Whether bits can be a public key of an algorithm. -/
def fitsAlgorithm (name : List UInt8) (bits : List UInt8) : Bool :=
  bits.head? == some 0 &&
    match plainAlgorithms.lookup name with
    | some size => bits.length == size + 1
    | none => otherAlgorithms.contains name && 1 < bits.length

/-- Whether an algorithm is one of those known here. -/
def isKnownAlgorithm (name : List UInt8) : Bool :=
  (plainAlgorithms.lookup name).isSome || otherAlgorithms.contains name

/-- Whether all elements are numbers. -/
def areNumbers (parts : List Der.Element) : Bool := parts.all (·.tag == Der.numberTag)

/-- Whether the elements of a record are those of a key or a certificate. -/
def isKeyRecord (parts : List Der.Element) : Bool :=
  if areNumbers parts then [2, 6, 9].contains parts.length
  else
    match parts with
    | [algorithm, key] =>
      key.tag == Der.bitsTag && (algorithmOf? algorithm).any (fitsAlgorithm · key.content)
    | first :: second :: third :: more =>
      if first.tag == Der.sequenceTag then
        second.tag == Der.sequenceTag && third.tag == Der.bitsTag && more.isEmpty
      else
        first.tag == Der.numberTag &&
          ((third.tag == Der.bytesTag && (algorithmOf? second).any isKnownAlgorithm) ||
            (second.tag == Der.bytesTag && third.tag == 0xA0))
    | _ => false

/-! ### Objects -/

mutual

/-- Whether an object in a value says which type of key it is. -/
def namesKeyType : Value → Bool
  | .object fields => (fields.lookup "kty").isSome || fieldNamesKeyType fields
  | .list items => itemNamesKeyType items
  | _ => false

/-- Whether one of some items does. -/
def itemNamesKeyType : List Value → Bool
  | [] => false
  | v :: rest => namesKeyType v || itemNamesKeyType rest

/-- Whether one of some fields does. -/
def fieldNamesKeyType : List (String × Value) → Bool
  | [] => false
  | (_, v) :: rest => namesKeyType v || fieldNamesKeyType rest

end

/-! ### Mistakes -/

/-- What a secret is instead. -/
inductive Mistake
  /-- A key of a pair, or a certificate. -/
  | keyOfPair
  /-- A JSON object that describes a key. -/
  | describedKey
  deriving DecidableEq, Repr

/-- The mistake in words. -/
def Mistake.message : Mistake → String
  | .keyOfPair =>
    "The specified key is an asymmetric key or x509 certificate and should not be used as an " ++
      "HMAC secret."
  | .describedKey =>
    "The specified key looks like a JWK and should not be used directly as an HMAC secret. " ++
      "Load it via PyJWK / HMACAlgorithm.from_jwk first."

/-- Whether a secret is a key of a pair. -/
def isKeyOfPair (secret : List UInt8) : Bool :=
  let cs := secret.map fun b => Char.ofNat b.toNat
  blockNames.any (holdsBlock · cs) || shellWords.any (·.toList.isPrefixOf cs) ||
    (Der.sequence? secret).any isKeyRecord

/-- Whether a secret is a JSON object that describes a key. -/
def isDescribedKey (secret : List UInt8) : Bool :=
  match (Text.decodeAny? secret).bind fun (cs, torn) => (Json.readDecoded cs torn).toOption with
  | some v => namesKeyType v
  | none => false

/-- What is wrong with a secret, if anything is. -/
def mistaken? (secret : List UInt8) : Option Mistake :=
  if isKeyOfPair secret then some .keyOfPair
  else if isDescribedKey secret then some .describedKey
  else none

end Guildhall.Token.Secret
