/-
Guildhall/Launch.lean

Starting the whole service from the variables of its environment.  Settings
that are refused end the process before anything is set up; what is wrong
with keys or with the gateway itself is not caught here.
-/
import Guildhall.Gateway
import Guildhall.Settings.Loading
import Guildhall.Token.Issuer

namespace Guildhall

namespace Gateway

/-- Whether the paths of a gateway may begin with a text. -/
def isStart (s : String) : Bool :=
  s.isEmpty || (Text.beginsWith "/" s && !Text.endsWith "/" s)

/-- What a gateway may be told; the settings say the rest. -/
structure Options where
  issuer : Token.IssuerOptions := {}
  decoder : Option Token.Decoder := none
  deadline : Option Deadline := none

/-- A gateway with what it is not told from the settings. -/
def make (s : Settings) (files : Token.Directory) (options : Options) : Except Stop Gateway := do
  let issuer ← Token.Issuer.make s files options.issuer
  let decoder ← match options.decoder with
    | some decoder => pure decoder
    | none => Token.Decoder.ofSettings s files options.issuer.library
  if s.serviceName.isEmpty || s.serviceVersion.isEmpty || !isStart s.gatewayPrefix then
    throw .misconfigured
  return {
    gate := { decoder, deadline := options.deadline.getD (.ofInt s.requestTimeout) }
    service := { issuer, version := s.serviceVersion }
    start := s.gatewayPrefix }

end Gateway

/-- How the server is started. -/
structure Serving where
  title : String
  version : String
  host : String
  port : Int
  deriving DecidableEq, Repr

/-- How a process ended, and the servers that it started. -/
structure Ending where
  exit : Nat
  served : List Serving
  deriving DecidableEq, Repr

/-- The server that settings ask for. -/
def Serving.ofSettings (s : Settings) : Serving :=
  { title := s.serviceName, version := s.serviceVersion, host := s.serverHost,
    port := s.serverPort }

/-- Starts the service and serves until the server ends, by itself or because it
is interrupted. -/
def launch (vars : Variables) (files : Token.Directory) : Except Stop Ending :=
  match Configuration.validate vars {} with
  | (.error _, _) => .ok { exit := 1, served := [] }
  | (.ok (), c) => do
    let _ ← Gateway.make c.loading.settings files {}
    return { exit := 0, served := [Serving.ofSettings c.loading.settings] }

end Guildhall
