/-
Guildhall/Gateway/Target.lean

The target of a request: a path with escapes, and perhaps a query.  Routing
looks at the path with its escapes resolved; a redirection writes the path
with escapes again.
-/
import Guildhall.Text.Percent

namespace Guildhall.Gateway

/-- A path and the query after it. -/
structure Target where
  path : List Char
  query : List Char
  deriving DecidableEq, Repr

namespace Target

/-! ### Reading -/

/-- The parts of a target as it is sent. -/
def ofRaw (raw : String) : Target :=
  { path := Text.unescape (raw.toList.takeWhile (· != '?'))
    query := (raw.toList.dropWhile (· != '?')).drop 1 }

/-! ### Writing -/

/-- The characters that need no escape in an address. -/
def isSafe (c : Char) : Bool :=
  c.isAlphanum || "_.-~:/%#?=@[]!$&'()*+,;".toList.contains c

/-- A text with escapes for what is not safe. -/
def escape (cs : List Char) : List Char :=
  cs.flatMap fun c => if isSafe c then [c] else (Text.Utf8.encodeChar c).flatMap Text.escapeByte

/-- A path in which nothing begins a query or a fragment. -/
def protect (path : List Char) : List Char :=
  path.flatMap fun c => if c == '?' || c == '#' then Text.escapeByte (UInt8.ofNat c.toNat) else [c]

/-- A path without the slashes at its end. -/
def withoutSlashes (path : List Char) : List Char :=
  (path.reverse.dropWhile (· == '/')).reverse

/-- The address of a path on a host, with the query. -/
def address (host : String) (path query : List Char) : String :=
  String.ofList (escape ("http://".toList ++ host.toList ++ protect path ++
    (if query.isEmpty then [] else '?' :: query)))

end Target

end Guildhall.Gateway
