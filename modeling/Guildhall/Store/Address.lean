/-
Guildhall/Store/Address.lean

Addresses of storages, taken apart: a scheme, perhaps a user with a
password, a host, a port and the name of a database, and options in a
query.  Each kind of storage looks at its options before anything is
opened; `servesHosts` and `embedsFile` say whether they can be used.
-/
import Guildhall.Number.Binary64
import Guildhall.Text.Part
import Guildhall.Text.Percent
import Guildhall.Text.Upper

namespace Guildhall

/-- An address. -/
structure Address where
  scheme : String
  user : List Char
  password : List Char
  host : List Char
  port : Option Int
  database : String
  /-- The options in order; one may be given several times. -/
  options : List (String × String)
  deriving DecidableEq, Repr

namespace Address

/-! ### Taking an address apart -/

/-- Cuts a text at the last one of a character. -/
def cutAtLast (c : Char) (cs : List Char) : Option (List Char × List Char) :=
  if cs.contains c then
    let after := (cs.reverse.takeWhile (· != c)).reverse
    some (cs.take (cs.length - after.length - 1), after)
  else none

/-- Cuts off a user and a password, which end with an at sign. -/
def cutUser (cs : List Char) : (List Char × List Char) × List Char :=
  let name := cs.takeWhile fun c => c != ':' && c != '/'
  let rest := cs.drop name.length
  let within :=
    match cutAtLast '@' name with
    | some (user, after) => ((user, []), after ++ rest)
    | none => (([], []), cs)
  match rest with
  | ':' :: after =>
    if after.contains '@' then
      ((name, after.takeWhile (· != '@')), (after.dropWhile (· != '@')).drop 1)
    else within
  | _ => within

/-- Cuts off a host; one in brackets may hold colons. -/
def cutHost (cs : List Char) : List Char × List Char :=
  let plain := (cs.takeWhile fun c => c != '/' && c != ':' && c != '?',
    cs.dropWhile fun c => c != '/' && c != ':' && c != '?')
  match cs with
  | '[' :: inner =>
    match cutAtLast ']' (inner.takeWhile fun c => c != '/' && c != '?') with
    | some (c :: host, after) =>
      (c :: host, after ++ inner.dropWhile fun c => c != '/' && c != '?')
    | _ => plain
  | _ => plain

/-- Cuts off a port, which has to be a number. -/
def cutPort? (cs : List Char) : Option (Option Int × List Char) :=
  match cs with
  | ':' :: after =>
    let digits := after.takeWhile fun c => c != '/' && c != '?'
    match Text.Numeral.read (String.ofList digits) with
    | .ok n => some (some n, after.drop digits.length)
    | .error _ => none
  | cs => some (none, cs)

/-- A part of an option; a plus sign stands for a blank. -/
def optionText (cs : List Char) : String :=
  String.ofList (Text.unescape (cs.map fun c => if c = '+' then ' ' else c))

/-- One option; nothing if it has no value. -/
def readOption (s : String) : Option (String × String) :=
  match s.toList.dropWhile (· != '=') with
  | '=' :: c :: value => some (optionText (s.toList.takeWhile (· != '=')), optionText (c :: value))
  | _ => none

/-- The options of a query. -/
def readOptions (cs : List Char) : List (String × String) :=
  match cs with
  | '?' :: query =>
    ((String.ofList (query.takeWhile (· != '\n'))).splitOn "&").filterMap readOption
  | _ => []

/-- Takes an address of a scheme apart. -/
def read? (scheme s : String) : Option Address := do
  let rest ← Text.after? (scheme ++ "://").toList s.toList
  let ((user, password), rest) := cutUser rest
  let (host, rest) := cutHost rest
  let (port, rest) ← cutPort? rest
  let (database, rest) := match rest with
    | '/' :: path => (path.takeWhile (· != '?'), path.dropWhile (· != '?'))
    | rest => ([], rest)
  return { scheme, user, password, host, port, database := String.ofList database,
           options := readOptions rest }

/-! ### Options -/

/-- The values of an option. -/
def valuesOf (a : Address) (name : String) : List String :=
  (a.options.filter (·.1 == name)).map (·.2)

/-- Whether an option can be used: it is not given, or once and as it should
be. -/
def allows (a : Address) (name : String) (isValid : String → Bool) : Bool :=
  match a.valuesOf name with
  | [] => true
  | [s] => isValid s
  | _ => false

/-- Whether a text is a whole number. -/
def isWhole (s : String) : Bool := (Text.Numeral.read s).isOk

/-- The words for floating-point numbers that are not finite. -/
def numberWords : List (List Char) :=
  ["inf".toList, "infinity".toList, "nan".toList]

/-- Whether single underscores stand between digits only. -/
def underscoresFit : List Char → Bool
  | a :: '_' :: b :: rest => a.isDigit && b.isDigit && underscoresFit (b :: rest)
  | a :: rest => a != '_' && underscoresFit rest
  | [] => true

/-- Whether a text is a number, with or without a fraction. -/
def isNumber (s : String) : Bool :=
  let cs := Text.trimBy Text.isNumeralBlank s.toList
  let cs := match cs with
    | '+' :: rest | '-' :: rest => rest
    | cs => cs
  let low := cs.map Char.toLower
  if numberWords.contains low then true
  else
    underscoresFit cs && !numberWords.contains (low.filter (· != '_')) &&
      (Number.Binary64.readUnsigned false (cs.filter (· != '_'))).isSome

/-- Whether a text is a word for a truth value. -/
def isFlagWord (s : String) : Bool :=
  ["true", "yes", "on", "y", "t", "1", "false", "no", "off", "n", "f", "0"].contains
    (Text.lower (Text.strip s))

/-! ### Embedded storages -/

/-- Whether an embedded storage can use an address: it has no host, and its
options are of their kinds.  A flag that is given twice counts as set. -/
def embedsFile (a : Address) : Bool :=
  a.user.isEmpty && a.password.isEmpty && a.host.isEmpty && (a.port.all (· == 0)) &&
    a.allows "timeout" isNumber && a.allows "detect_types" isWhole &&
    a.allows "cached_statements" isWhole &&
    ["uri", "check_same_thread"].all fun name =>
      match a.valuesOf name with
      | [s] => isFlagWord s
      | _ => true

/-! ### Servers -/

/-- A host and its port among several ones. -/
abbrev Endpoint := String × Option String

/-- A host with a port after a colon, if it has one. -/
def splitHost (s : String) : Option Endpoint :=
  match s.splitOn ":" with
  | [host] => some (host, none)
  | [host, port] => some (host, some port)
  | _ => none

/-- Whether the name of a single host with a port is well formed. -/
def isPlainHost (s : String) : Bool :=
  s.toList.all fun c => c.isAlphanum || c == '-' || c == '.'

/-- The hosts of an address and the ports that come with them, and whether the
ports stand in the hosts; nothing if they cannot be read. -/
def hosts? (a : Address) : Option (List String × Option (List String) × Bool) :=
  match a.valuesOf "host" with
  | [] => some ([], none, false)
  | [s] =>
    match s.splitOn "," with
    | [host] =>
      if host.toList.contains ':' && (a.valuesOf "port").isEmpty then
        match splitHost host with
        | some (name, some port) =>
          if isPlainHost name && (port.toList.all Text.isDigit) && !port.isEmpty then
            some ([name], some [port], true)
          else some ([host], none, true)
        | _ => some ([host], none, true)
      else some ([host], none, false)
    | hosts => some (hosts, none, false)
  | several =>
    match several.mapM splitHost with
    | some pairs => some (pairs.map (·.1), some (pairs.map fun p => p.2.getD ""), true)
    | none => none

/-- The ports of an address, given those that stand in its hosts. -/
def ports? (a : Address) (inHosts : Option (List String)) (areInHosts : Bool) :
    Option (Option (List String)) :=
  match a.valuesOf "port" with
  | [] => some inHosts
  | [s] => if areInHosts then none else some (some (s.splitOn ","))
  | several => if areInHosts then none else some (some several)

/-- Whether the hosts and the ports of an address go together. -/
def hostsFit (hosts : List String) (ports : Option (List String)) : Bool :=
  let count := (ports.getD []).length
  (ports.getD []).all (fun s => s.isEmpty || isWhole s) &&
    (match hosts with
      | [] => count ≤ 1
      | [_] => count ≤ 1
      | hosts =>
        count = hosts.length && !hosts.contains "" &&
          (ports.getD []).all fun s => !s.isEmpty && !((Text.Numeral.read s).toOption == some 0))

/-- Whether a server can use an address. -/
def servesHosts (a : Address) : Bool :=
  match a.hosts? with
  | none => false
  | some (hosts, inHosts, areInHosts) =>
    (match a.ports? inHosts areInHosts with
      | none => false
      | some ports => hostsFit hosts ports) && a.allows "prepared_statement_cache_size" isWhole

end Address

end Guildhall
