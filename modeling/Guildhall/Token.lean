/-
Guildhall/Token.lean

Bearer tokens: three base64url segments with points between them, for a
header, a payload and a signature.  `encode` writes a signed token and
`decode` reads one, checking the signature if the decoder says so.  The
checks have a fixed order, and each has its own cause in `Fault`.  At one of
them the library may break down instead (`Decoder.breaksAt`).
-/
import Guildhall.Claims
import Guildhall.Codec.Base64Url
import Guildhall.Json.Reader
import Guildhall.Json.Writer
import Guildhall.Stop
import Guildhall.Token.Key
import Guildhall.Token.Secret

namespace Guildhall.Token

open Codec

/-- Why bytes hold no value. -/
inductive Unread
  | notJson
  /-- The values are nested too deeply. -/
  | tooDeep
  deriving DecidableEq, Repr

/-- Why a token is refused. -/
inductive Fault
  | noCredential
  | notEnoughSegments
  | headerPadding
  | headerUnread (cause : Unread)
  | headerNotAnObject
  | detachedPayloadNotEmpty
  | payloadPadding
  | signaturePadding
  | keyIdNotText
  | criticalNotAList
  | criticalNotTexts
  | criticalUnsupported (name : String)
  | criticalMissing
  | detachedNotCritical
  | detachedPayloadNeeded
  | algorithmMissing
  | algorithmNotAllowed
  | algorithmUnknown
  | unsignedWithKey
  | keyUnreadable
  | badSecret (mistake : Secret.Mistake)
  | badSignature
  | payloadUnread (cause : Unread)
  | payloadNotAnObject
  | subjectNotText
  | tokenIdNotText
  | claims (fault : ClaimsFault)
  deriving DecidableEq, Repr

/-- The message for a refused token. -/
def Fault.message : Fault → String
  | .noCredential => "no credential supplied"
  | .notEnoughSegments => "Not enough segments"
  | .headerPadding => "Invalid header padding"
  | .headerUnread _ => "Invalid header string"
  | .headerNotAnObject => "Invalid header string: must be a json object"
  | .detachedPayloadNotEmpty => "Payload segment must be empty when 'b64' is false."
  | .payloadPadding => "Invalid payload padding"
  | .signaturePadding => "Invalid crypto padding"
  | .keyIdNotText => "Key ID header parameter must be a string"
  | .criticalNotAList => "Invalid 'crit' header: must be a non-empty list"
  | .criticalNotTexts => "Invalid 'crit' header: values must be strings"
  | .criticalUnsupported name => "Unsupported critical extension: " ++ name
  | .criticalMissing => "Critical extension 'b64' is missing from headers"
  | .detachedNotCritical =>
    "The 'b64' header parameter requires 'b64' to be listed in 'crit'."
  | .detachedPayloadNeeded =>
    "It is required that you pass in a value for the \"detached_payload\" argument to decode " ++
      "a message having the b64 header set to false."
  | .algorithmMissing => "Algorithm not specified"
  | .algorithmNotAllowed => "The specified alg value is not allowed"
  | .algorithmUnknown => "Algorithm not supported"
  | .unsignedWithKey => "When alg = \"none\", key value must be None."
  | .keyUnreadable => "Could not parse the provided public key."
  | .badSecret mistake => mistake.message
  | .badSignature => "Signature verification failed"
  | .payloadUnread _ => "Invalid payload string"
  | .payloadNotAnObject => "Invalid payload string: must be a json object"
  | .subjectNotText => "Subject must be a string"
  | .tokenIdNotText => "JWT ID must be a string"
  | .claims fault => fault.message

/-! ### Segments -/

/-- Cuts a text at the first point. -/
def cutFirst : List Char → Option (List Char × List Char)
  | [] => none
  | c :: rest =>
    if c = '.' then some ([], rest)
    else (cutFirst rest).map fun (before, after) => (c :: before, after)

/-- Cuts a text at the last point. -/
def cutLast (cs : List Char) : Option (List Char × List Char) :=
  (cutFirst cs.reverse).map fun (after, before) => (before.reverse, after.reverse)

/-- The text of a token, cut into its parts. -/
structure Segments where
  /-- The text that is signed: header, point and payload. -/
  signed : List Char
  header : List Char
  payload : List Char
  signature : List Char

/-- Cuts a token at the last point, and what is before it at the first one. -/
def segments? (cs : List Char) : Option Segments := do
  let (signed, signature) ← cutLast cs
  let (header, payload) ← cutFirst signed
  return { signed, header, payload, signature }

/-- The value in bytes of JSON text. -/
def readJson (bytes : List UInt8) : Except Unread Value :=
  match Text.decodeAny? bytes with
  | none => .error .notJson
  | some (cs, torn) =>
    match Json.readDecoded cs torn with
    | .ok v => .ok v
    | .error .tooDeep => .error .tooDeep
    | .error _ => .error .notJson

/-! ### Headers -/

/-- Whether the header says that the payload is not in the token. -/
def isDetached (header : List (String × Value)) : Bool :=
  match Value.get header "b64" with
  | .bool false => true
  | _ => false

/-- Checks the extensions that a token calls critical. -/
def checkCritical (header : List (String × Value)) : List Value → Except Fault Unit
  | [] => .ok ()
  | .torn name :: _ => .error (.criticalUnsupported name)
  | .text name :: rest =>
    if name ≠ "b64" then .error (.criticalUnsupported name)
    else if (header.lookup "b64").isNone then .error .criticalMissing
    else checkCritical header rest
  | _ :: _ => .error .criticalNotTexts

/-- The list of critical extensions; empty if there is none. -/
def criticalNames (header : List (String × Value)) : List Value :=
  match header.lookup "crit" with
  | some (.list names) => names
  | _ => []

/-- Checks the fields of a header that are no matter of the signature. -/
def checkHeader (header : List (String × Value)) : Except Fault Unit := do
  match header.lookup "kid" with
  | none | some (.text _) | some (.torn _) => pure ()
  | some _ => throw .keyIdNotText
  match header.lookup "crit" with
  | none => pure ()
  | some (.list (name :: names)) => checkCritical header (name :: names)
  | some _ => throw .criticalNotAList
  if isDetached header then
    if (criticalNames header).isEmpty then throw .detachedNotCritical
    else throw .detachedPayloadNeeded

/-! ### Decoding -/

/-- How tokens are read. -/
structure Decoder where
  /-- The key for checking signatures; they are not checked without one. -/
  key : Option Key := none
  /-- The accepted algorithms. -/
  algorithms : List String := ["RS512"]
  library : Library := {}

/-- The algorithms that are accepted if none are given. -/
def defaultAlgorithms : List String := ["RS512"]

/-- A decoder that checks signatures needs a key that is not empty. -/
def Decoder.make (verify : Bool) (key : Option Key) (algorithms : List String)
    (library : Library := {}) : Except Stop Decoder :=
  let algorithms := if algorithms.isEmpty then defaultAlgorithms else algorithms
  if !verify then .ok { algorithms, library }
  else
    match key with
    | some k =>
      if k.isEmpty then .error (.badValue "signature verification requires a key")
      else .ok { key := some k, algorithms, library }
    | none => .error (.badValue "signature verification requires a key")

/-- The algorithm that a header names, if the decoder accepts it. -/
def acceptedAlgorithm (decoder : Decoder) (header : List (String × Value)) :
    Except Fault String :=
  match header.lookup "alg" with
  | none => .error .algorithmMissing
  | some (.text name) =>
    if name.isEmpty || !decoder.algorithms.contains name then .error .algorithmNotAllowed
    else .ok name
  | some _ => .error .algorithmNotAllowed

/-- Checks a signature by the algorithm of a name. -/
def checkSignatureBy (library : Library) (name : String) (key : Key) (signed : List Char)
    (signature : List UInt8) : Except Fault Unit :=
  match Algorithm.ofName? name with
  | none => .error .algorithmUnknown
  | some .unsigned => .error .unsignedWithKey
  | some .publicKey =>
    match library.verify name key signed signature with
    | none => .error .keyUnreadable
    | some good => if good then .ok () else .error .badSignature
  | some (.keyed hash) =>
    match Secret.mistaken? key.octets with
    | some mistake => .error (.badSecret mistake)
    | none =>
      if hash.keyed key.octets (Text.Utf8.encode signed) = signature then .ok ()
      else .error .badSignature

/-- Checks a signature. -/
def checkSignature (decoder : Decoder) (key : Key) (header : List (String × Value))
    (signed : List Char) (signature : List UInt8) : Except Fault Unit := do
  let name ← acceptedAlgorithm decoder header
  checkSignatureBy decoder.library name key signed signature

/-- The header of a token and the bytes of its payload and signature. -/
structure Parts where
  segments : Segments
  header : List (String × Value)
  payload : List UInt8
  signature : List UInt8

/-- Takes a token apart. -/
def takeApart (token : String) : Except Fault Parts := do
  let some segments := segments? token.toList | throw .notEnoughSegments
  let some headerBytes := Base64Url.decode segments.header | throw .headerPadding
  let header ← match readJson headerBytes with
    | .error cause => throw (.headerUnread cause)
    | .ok (.object fields) => pure fields
    | .ok _ => throw .headerNotAnObject
  let payload ←
    if isDetached header then
      if segments.payload.isEmpty then pure [] else throw .detachedPayloadNotEmpty
    else
      match Base64Url.decode segments.payload with
      | some bytes => pure bytes
      | none => throw .payloadPadding
  let some signature := Base64Url.decode segments.signature | throw .signaturePadding
  checkHeader header
  return { segments, header, payload, signature }

/-- A claim that has to be a text if it is there at all. -/
def checkText (payload : List (String × Value)) (name : String) (fault : Fault) :
    Except Fault Unit :=
  match payload.lookup name with
  | none | some (.text _) | some (.torn _) => .ok ()
  | some _ => .error fault

/-- The claims of a token. -/
def decode (decoder : Decoder) (token : String) : Except Fault Claims := do
  if token.isEmpty then throw .noCredential
  let parts ← takeApart token
  if let some key := decoder.key then
    checkSignature decoder key parts.header parts.segments.signed parts.signature
  let payload ← match readJson parts.payload with
    | .error cause => throw (.payloadUnread cause)
    | .ok (.object fields) => pure fields
    | .ok _ => throw .payloadNotAnObject
  if decoder.key.isSome then
    checkText payload "sub" .subjectNotText
    checkText payload "jti" .tokenIdNotText
  match Claims.ofFields payload with
  | .ok claims => return claims
  | .error fault => throw (.claims fault)

/-- Whether values that are nested too deeply are at fault. -/
def Fault.isTooDeep : Fault → Bool
  | .headerUnread cause | .payloadUnread cause => cause == .tooDeep
  | _ => false

/-- Whether the library breaks down where a token is at fault, and refuses nothing. -/
def Decoder.breaksAt (decoder : Decoder) (fault : Fault) : Bool :=
  fault.isTooDeep && !decoder.library.refusesDepth

/-! ### Encoding -/

/-- Bytes that carry a value as compact JSON. -/
def jsonBytes (v : Value) : List UInt8 := Text.Utf8.encode (Json.writeChars Json.compact v)

/-- The header of a token. -/
def header (algorithm : String) : Value :=
  .object [("alg", .text algorithm), ("typ", .text "JWT")]

/-- The text that is signed. -/
def signingInput (algorithm : String) (payload : List (String × Value)) : List Char :=
  Base64Url.encode (jsonBytes (header algorithm)) ++
    '.' :: Base64Url.encode (jsonBytes (.object payload))

/-- The signature of a text.  Tokens without a signature take the empty text for
a key and nothing else, not even a key of no bytes. -/
def sign (library : Library) (algorithm : String) (key : Key) (input : List Char) :
    Except Stop (List UInt8) :=
  match Algorithm.ofName? algorithm with
  | none => .error .unknownAlgorithm
  | some (.keyed hash) =>
    if key.isEmpty || (Secret.mistaken? key.octets).isSome then .error .keyRejected
    else .ok (hash.keyed key.octets (Text.Utf8.encode input))
  | some .unsigned => if key = .text "" then .ok [] else .error .keyRejected
  | some .publicKey => (library.sign algorithm key input).elim (.error .keyRejected) .ok

/-- A signed token. -/
def encode (library : Library) (algorithm : String) (key : Key)
    (payload : List (String × Value)) : Except Stop String := do
  let input := signingInput algorithm payload
  let signature ← sign library algorithm key input
  return String.ofList (input ++ '.' :: Base64Url.encode signature)

end Guildhall.Token
