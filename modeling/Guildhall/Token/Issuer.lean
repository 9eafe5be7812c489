/-
Guildhall/Token/Issuer.lean

Login tokens, and the decoder that fits them.  An issuer signs claims for
one user, valid from the current second on for a fixed time.  What an
issuer is not told comes from the settings; the signing key is looked for
only when a token is issued, so that a service without one can still run.
-/
import Guildhall.Token
import Guildhall.Token.KeyFile

namespace Guildhall.Token

open Number

/-- Signs login tokens. -/
structure Issuer where
  algorithm : String
  /-- How to get the signing key. -/
  key : Except Stop Key
  /-- How long a token is valid, in microseconds. -/
  lifetime : Int
  audience : String
  issuer : String
  library : Library := {}

/-- What an issuer may be told; empty texts and a time of zero count as not
told. -/
structure IssuerOptions where
  algorithm : String := ""
  signingKey : Option Key := none
  /-- How long a token is valid, in seconds. -/
  ttl : Quantity := .whole 0
  audience : String := ""
  issuer : String := ""
  library : Library := {}

/-- The first text, or the second one if the first is empty. -/
def orText (s fallback : String) : String := if s.isEmpty then fallback else s

/-- The most days that a span of time may have, in either direction. -/
def greatestDays : Int := 999999999

/-- Whether a number of microseconds is a span of time. -/
def isSpan (micros : Int) : Bool := (micros / 86400000000).natAbs ≤ greatestDays

/-- The microseconds of a number of seconds, to the nearest one. -/
def microsOf : Quantity → Except Stop Int
  | .whole seconds => .ok (seconds * 1000000)
  | .fractional .nan => .error .unusable
  | .fractional x => (Instant.floatMicros? x).elim (.error .overflow) .ok

/-- An issuer, with what it is not told from the settings. -/
def Issuer.make (s : Settings) (files : Directory) (options : IssuerOptions) :
    Except Stop Issuer := do
  let algorithm := orText options.algorithm s.jwtAlgorithm
  let told ← microsOf options.ttl
  let lifetime := if told = 0 then s.tokenTtlHours * 3600000000 else told
  if !isSpan lifetime then throw .overflow
  return {
    algorithm
    key := options.signingKey.elim (signingKey s files algorithm) .ok
    lifetime
    audience := orText options.audience s.tokenAudience
    issuer := orText options.issuer s.tokenIssuer
    library := options.library }

/-- For whom a token is issued. -/
structure Holder where
  userId : String
  username : String
  userEmail : String
  isAdmin : Bool

/-- An issued token. -/
structure Issued where
  token : String
  expiresAt : Instant
  claims : Claims

/-- When a token that is issued now expires, if the calendar has that instant. -/
def Issuer.expiry? (issuer : Issuer) (now : Instant) : Option Instant :=
  now.wholeSecond.later? issuer.lifetime

/-- The claims of a new token. -/
def Issuer.claims (issuer : Issuer) (now expiresAt : Instant) (tokenId : String)
    (holder : Holder) : Claims :=
  { expiresAt, userId := holder.userId, username := holder.username,
    userEmail := holder.userEmail, isAdmin := holder.isAdmin, audience := [issuer.audience],
    issuedAt := some now.wholeSecond, notBefore := some now.wholeSecond,
    issuer := issuer.issuer, tokenId }

/-- Signs claims. -/
def Issuer.sign (issuer : Issuer) (claims : Claims) : Except Stop Issued := do
  let key ← issuer.key
  let token ← encode issuer.library issuer.algorithm key claims.payload
  return { token, expiresAt := claims.expiresAt, claims }

/-- The decoder that the settings ask for. -/
def Decoder.ofSettings (s : Settings) (files : Directory) (library : Library := {}) :
    Except Stop Decoder :=
  if s.verifySignature then do
    let key ← verificationKey s files s.jwtAlgorithm
    Decoder.make true (some key) [s.jwtAlgorithm] library
  else Decoder.make false none [] library

end Guildhall.Token
