/-
Guildhall/Main.lean

The program.  Its environment gives the settings; then every line of input
is a request, as a JSON object, and every line of output is the response to
it.  All tables are empty at the start and live as long as the program.
-/
import Guildhall.Launch
import Guildhall.Store.Engine

namespace Guildhall.Main

/-- The names of the variables that are read. -/
def variableNames : List String := ({} : Settings).fields.map (·.1)

/-- The variables that are set. -/
def readVariables : IO Variables := do
  let pairs ← variableNames.mapM fun name => do
    return (← IO.getEnv name).map fun value => (name, value)
  return pairs.filterMap id

/-- The text in a field of a request, if there is one. -/
def textField (fields : List (String × Value)) (name : String) : Option String :=
  match Value.get fields name with
  | .text s => some s
  | _ => none

/-- The request of a line, and the instant at which it is made. -/
def requestOf (fields : List (String × Value)) : Instant × Gateway.Request :=
  let now : Instant := match Value.get fields "now_us" with
    | .int n => ⟨n⟩
    | _ => ⟨0⟩
  let text := textField fields
  (now,
    { method := (text "method").getD "GET", target := (text "path").getD "/"
      authorization := text "authorization", contentType := text "content_type"
      body := Text.Utf8.bytes ((text "body").getD "") })

/-- The line for a response. -/
def lineOf (r : Gateway.Response) : String :=
  let header (name : String) (v : Option String) := (v.map fun s => (name, Value.text s)).toList
  Json.write Json.spaced (.object
    ([("status", .int r.status), ("body", r.body.getD .null)] ++
      header "cache_control" r.cacheHeader? ++ header "allow" r.allow ++
      header "location" r.location))

/-- Answers requests until the input ends. -/
partial def serve (g : Gateway) (d : Desk) : IO Unit := do
  let input ← IO.getStdin
  let line ← input.getLine
  if line.isEmpty then return ()
  match Json.read line with
  | .ok (.object fields) =>
    let (now, request) := requestOf fields
    let (response, d) := g.respond { now } request d
    IO.println (lineOf response)
    serve g d
  | _ =>
    IO.println (lineOf (.ofRefusal .unreadable))
    serve g d

end Guildhall.Main

open Guildhall in
/-- Loads the settings and serves; exits with 1 if they are refused. -/
def main : IO UInt32 := do
  match Configuration.validate (← Main.readVariables) {} with
  | (.error _, _) => return 1
  | (.ok (), c) =>
    for (severity, line) in c.notices do
      IO.eprintln (severity.word ++ ": " ++ line)
    match Gateway.make c.loading.settings [] {} with
    | .error _ => return 1
    | .ok g =>
      Main.serve g {}
      return 0
