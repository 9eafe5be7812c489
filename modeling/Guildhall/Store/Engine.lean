/-
Guildhall/Store/Engine.lean

Addresses of storages: what kind of storage an address leads to, whether it
can be opened at all, and with which options it is.
-/
import Guildhall.Settings
import Guildhall.Store.Address

namespace Guildhall.Engine

/-! ### Options -/

/-- How connections are kept. -/
inductive Pool
  /-- One connection for everybody. -/
  | shared
  /-- A new connection for each piece of work. -/
  | none
  deriving DecidableEq, Repr

/-- The name of a way to keep connections. -/
def Pool.name : Pool → String
  | shared => "StaticPool"
  | none => "NullPool"

/-- Whether an address is one of the storage that needs no server. -/
def isEmbedded (url : String) : Bool := Text.beginsWith "sqlite" url

/-- Whether an address is one of a storage that lives in memory only. -/
def isInMemory (url : String) : Bool :=
  isEmbedded url && (Text.holdsPart ":memory:" url || Text.endsWith "://" url)

/-- The limits of a pool of connections. -/
def poolLimits (s : Settings) : List (String × Value) :=
  [("pool_size", .int s.poolSize), ("max_overflow", .int s.maxOverflow),
    ("pool_recycle", .int s.poolRecycle), ("pool_timeout", .int s.poolTimeout),
    ("pool_pre_ping", .bool true)]

/-- The options with which a storage is opened. -/
def options (s : Settings) (url : String) (echo : Bool) : List (String × Value) :=
  ("echo", .bool echo) ::
    (if isEmbedded url then
      ("connect_args", .object [("check_same_thread", .bool false)]) ::
        (if isInMemory url then [("poolclass", .text Pool.shared.name)] else [])
    else if s.isTesting then [("poolclass", .text Pool.none.name)]
    else poolLimits s)

/-! ### Places -/

/-- Where an address leads. -/
inductive Place
  /-- A storage that is lost when it is closed. -/
  | memory
  /-- A file. -/
  | file (path : String)
  /-- A server. -/
  | server
  deriving DecidableEq, Repr

/-- The scheme of addresses of embedded storages. -/
def embeddedScheme : String := "sqlite+aiosqlite"

/-- The scheme of addresses of servers. -/
def serverScheme : String := "postgresql+asyncpg"

/-- The directory of a file; empty for one in the working directory. -/
def directoryOf (path : String) : String :=
  match path.toList.reverse.dropWhile (· != '/') with
  | [] => ""
  | ['/'] => "/"
  | _ :: parts => String.ofList parts.reverse

/-- The place of a path. -/
def placeOfPath (path : String) : Place :=
  if path.isEmpty || path == ":memory:" then .memory else .file path

/-- The place that an address leads to; `none` if no storage can be opened
there. -/
def place? (url : String) : Option Place :=
  match Address.read? serverScheme url with
  | some a => if a.servesHosts then some .server else none
  | none =>
    match Address.read? embeddedScheme url with
    | some a => if a.embedsFile then some (placeOfPath a.database) else none
    | none => none

end Guildhall.Engine
