/-
Guildhall/Settings.lean

The settings of the service, and what follows from them: which kind of
environment it runs in, the summary that may be logged and the names under
which the settings are read.  Secrets and addresses are no part of the
summary.
-/
import Guildhall.Text.Blank
import Guildhall.Text.Upper
import Guildhall.Value

namespace Guildhall

/-! ### Environments -/

/-- Where the service runs. -/
inductive Environment
  | development
  | testing
  | staging
  | production
  deriving DecidableEq, Repr

namespace Environment

/-- The name of an environment. -/
def name : Environment → String
  | development => "development"
  | testing => "testing"
  | staging => "staging"
  | production => "production"

/-- The environment of a name, in any letter case and with white space around
it; any other text means development. -/
def ofText (s : String) : Environment :=
  let key := Text.lower (Text.strip s)
  if key = "testing" then testing
  else if key = "staging" then staging
  else if key = "production" then production
  else development

end Environment

/-! ### Settings -/

/-- The settings of the service. -/
structure Settings where
  environment : String := "development"
  debug : Bool := false
  logLevel : String := "INFO"
  /-- Whether the log is JSON; if unset, the environment decides. -/
  logJson : Option Bool := none
  logToFile : Bool := false
  databaseUrl : String := ""
  poolSize : Int := 5
  maxOverflow : Int := 10
  poolRecycle : Int := 1800
  poolTimeout : Int := 30
  statementTimeoutMs : Int := 30000
  databaseEcho : Bool := false
  serverHost : String := "0.0.0.0"
  serverPort : Int := 8080
  gatewayPrefix : String := "/v1"
  requestTimeout : Int := 10
  jwtAlgorithm : String := "RS512"
  jwtSecret : String := ""
  privateKeyPath : String := ""
  publicKeyPath : String := ""
  verifySignature : Bool := false
  tokenTtlHours : Int := 8
  tokenAudience : String := "medieval"
  tokenIssuer : String := "users-service"
  serviceName : String := "users-service"
  serviceVersion : String := "1.0.0"
  deriving DecidableEq, Repr

namespace Settings

/-- Where the service runs. -/
def runsIn (s : Settings) : Environment := Environment.ofText s.environment

/-- Whether the service runs for real. -/
def isProduction (s : Settings) : Bool := s.runsIn == .production

/-- Whether the service runs under test. -/
def isTesting (s : Settings) : Bool := s.runsIn == .testing

/-- Whether the service runs on a desk. -/
def isDevelopment (s : Settings) : Bool := s.runsIn == .development

/-- Whether log lines are JSON. -/
def logsJson (s : Settings) : Bool := s.logJson.getD s.isProduction

/-- Every setting under the name of its variable. -/
def fields (s : Settings) : List (String × Value) :=
  [("ENVIRONMENT", .text s.environment), ("DEBUG", .bool s.debug),
    ("LOG_LEVEL", .text s.logLevel), ("LOG_JSON", (s.logJson.map Value.bool).getD .null),
    ("LOG_TO_FILE", .bool s.logToFile), ("DATABASE_URL", .text s.databaseUrl),
    ("DATABASE_POOL_SIZE", .int s.poolSize), ("DATABASE_MAX_OVERFLOW", .int s.maxOverflow),
    ("DATABASE_POOL_RECYCLE", .int s.poolRecycle),
    ("DATABASE_POOL_TIMEOUT", .int s.poolTimeout),
    ("DATABASE_STATEMENT_TIMEOUT_MS", .int s.statementTimeoutMs),
    ("DATABASE_ECHO", .bool s.databaseEcho), ("SERVER_HOST", .text s.serverHost),
    ("SERVER_PORT", .int s.serverPort), ("GATEWAY_PREFIX", .text s.gatewayPrefix),
    ("REQUEST_TIMEOUT_SECONDS", .int s.requestTimeout), ("JWT_ALGORITHM", .text s.jwtAlgorithm),
    ("JWT_SECRET", .text s.jwtSecret), ("JWT_PRIVATE_KEY_PATH", .text s.privateKeyPath),
    ("JWT_PUBLIC_KEY_PATH", .text s.publicKeyPath),
    ("AUTH_VERIFY_SIGNATURE", .bool s.verifySignature),
    ("TOKEN_TTL_HOURS", .int s.tokenTtlHours), ("TOKEN_AUDIENCE", .text s.tokenAudience),
    ("TOKEN_ISSUER", .text s.tokenIssuer), ("SERVICE_NAME", .text s.serviceName),
    ("SERVICE_VERSION", .text s.serviceVersion)]

/-- Sets a setting that is a text; other names change nothing. -/
def assignText (s : Settings) (key t : String) : Settings :=
  if key = "ENVIRONMENT" then { s with environment := t }
  else if key = "DATABASE_URL" then { s with databaseUrl := t }
  else if key = "SERVER_HOST" then { s with serverHost := t }
  else if key = "GATEWAY_PREFIX" then { s with gatewayPrefix := t }
  else if key = "JWT_ALGORITHM" then { s with jwtAlgorithm := t }
  else if key = "JWT_SECRET" then { s with jwtSecret := t }
  else if key = "JWT_PRIVATE_KEY_PATH" then { s with privateKeyPath := t }
  else if key = "JWT_PUBLIC_KEY_PATH" then { s with publicKeyPath := t }
  else if key = "TOKEN_AUDIENCE" then { s with tokenAudience := t }
  else if key = "TOKEN_ISSUER" then { s with tokenIssuer := t }
  else if key = "SERVICE_NAME" then { s with serviceName := t }
  else if key = "SERVICE_VERSION" then { s with serviceVersion := t }
  else s

/-- Sets a setting that is a number; other names change nothing. -/
def assignNumber (s : Settings) (key : String) (n : Int) : Settings :=
  if key = "DATABASE_POOL_SIZE" then { s with poolSize := n }
  else if key = "DATABASE_MAX_OVERFLOW" then { s with maxOverflow := n }
  else if key = "DATABASE_POOL_RECYCLE" then { s with poolRecycle := n }
  else if key = "DATABASE_POOL_TIMEOUT" then { s with poolTimeout := n }
  else if key = "DATABASE_STATEMENT_TIMEOUT_MS" then { s with statementTimeoutMs := n }
  else if key = "SERVER_PORT" then { s with serverPort := n }
  else if key = "REQUEST_TIMEOUT_SECONDS" then { s with requestTimeout := n }
  else if key = "TOKEN_TTL_HOURS" then { s with tokenTtlHours := n }
  else s

/-- The texts for which null is the empty one. -/
def nullableTexts : List String :=
  ["DATABASE_URL", "JWT_SECRET", "JWT_PRIVATE_KEY_PATH", "JWT_PUBLIC_KEY_PATH"]

/-- Sets the setting of a variable to a value that has already been read.  A flag
takes every value for its truth and the level of the log takes it as it is
displayed; otherwise other names and values of another kind change nothing. -/
def assign (s : Settings) (key : String) (v : Value) : Settings :=
  if key = "LOG_LEVEL" then { s with logLevel := v.display }
  else if key = "LOG_JSON" then
    { s with logJson := match v with
      | .null => none
      | v => some v.holds }
  else if key = "LOG_TO_FILE" then { s with logToFile := v.holds }
  else if key = "AUTH_VERIFY_SIGNATURE" then { s with verifySignature := v.holds }
  else if key = "DEBUG" then { s with debug := v.holds }
  else if key = "DATABASE_ECHO" then { s with databaseEcho := v.holds }
  else
    match v with
    | .text t => s.assignText key t
    | .int n => s.assignNumber key n
    | .null => if nullableTexts.contains key then s.assignText key "" else s
    | _ => s

/-- What may be logged of the settings. -/
def summary (s : Settings) (fromEnv : List String) (issues : List String) :
    List (String × Value) :=
  [("environment", .text s.runsIn.name), ("log_level", .text s.logLevel),
    ("database_pool_size", .int s.poolSize),
    ("request_timeout_seconds", .int s.requestTimeout),
    ("jwt_algorithm", .text s.jwtAlgorithm), ("auth_verify_signature", .bool s.verifySignature),
    ("service_version", .text s.serviceVersion), ("settings_from_env", .int fromEnv.length),
    ("config_issues", .list (issues.map .text))]

end Settings

end Guildhall
