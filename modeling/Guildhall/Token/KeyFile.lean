/-
Guildhall/Token/KeyFile.lean

Where keys come from: the shared secret of the settings, or a file whose
path the settings give.  The files are given as a directory of names and
contents, so finding a key is a pure function.
-/
import Guildhall.Settings.Loading
import Guildhall.Token.Key

namespace Guildhall.Token

/-- The files below a working directory, by their relative paths. -/
abbrev Directory := List (String × List UInt8)

/-! ### Paths -/

/-- The parts of a path between its slashes; empty ones and single points
mean nothing. -/
def pathParts (path : String) : List String :=
  (path.splitOn "/").filter fun part => !part.isEmpty && part != "."

/-- The slashes at the beginning of a path: two stay two, more are one. -/
def pathRoot (path : String) : String :=
  let slashes := (path.toList.takeWhile (· == '/')).length
  if slashes = 2 then "//" else if slashes = 0 then "" else "/"

/-- A path in its shortest spelling. -/
def tidyPath (path : String) : String :=
  let tidy := pathRoot path ++ "/".intercalate (pathParts path)
  if tidy.isEmpty then "." else tidy

/-- The bytes of a path, with the one that ends it. -/
def pathLimit : Nat := 4096

/-- The bytes of one part of a path. -/
def partLimit : Nat := 255

/-! ### Finding files -/

/-- Why a path leads to no content. -/
inductive PathFault
  | missing
  | notADirectory
  | isADirectory
  | tooLong
  deriving DecidableEq, Repr

/-- The number and the words for a fault. -/
def PathFault.message : PathFault → String
  | .missing => "[Errno 2] No such file or directory: "
  | .notADirectory => "[Errno 20] Not a directory: "
  | .isADirectory => "[Errno 21] Is a directory: "
  | .tooLong => "[Errno 36] File name too long: "

/-- A directory that a path has led to. -/
inductive Place
  /-- Below the working directory, by the names on the way. -/
  | inside (names : List String)
  /-- The root, or above the working directory: nothing else is known there. -/
  | outside

/-- The directory around a directory. -/
def Place.parent : Place → Place
  | .inside (name :: names) => .inside (name :: names).dropLast
  | .inside [] | .outside => .outside

/-- Follows the parts of a path from a directory on.  Every part but the last
one has to lead to a directory that exists, also one that is left again. -/
def follow (files : Directory) (place : Place) : List String → Except PathFault (List UInt8)
  | [] => .error .isADirectory
  | part :: rest =>
    if part = ".." then follow files place.parent rest
    else if part.utf8ByteSize > partLimit then .error .tooLong
    else
      match place with
      | .outside => .error .missing
      | .inside names =>
        let names := names ++ [part]
        let path := "/".intercalate names
        match files.lookup path with
        | some content => if rest.isEmpty then .ok content else .error .notADirectory
        | none =>
          if files.any fun file => Text.beginsWith (path ++ "/") file.1 then
            follow files (.inside names) rest
          else .error .missing

/-- The content of a file, given its path in the shortest spelling. -/
def contentAt (files : Directory) (path : String) : Except PathFault (List UInt8) :=
  if path.utf8ByteSize ≥ pathLimit then .error .tooLong
  else
    follow files (if (pathRoot path).isEmpty then .inside [] else .outside) (pathParts path)

/-- The content of a file, or why there is none. -/
def readFile (files : Directory) (path : String) : Except String (List UInt8) :=
  let path := tidyPath path
  match contentAt files path with
  | .ok content => .ok content
  | .error fault => .error (fault.message ++ Text.quote path)

/-! ### Keys -/

/-- A key from a file; `setting` is the variable that gives the path. -/
def readKey (files : Directory) (path setting : String) : Except Stop Key :=
  if path.isEmpty then .error (.outage (.configuration setting "key file path is not set" none))
  else if path.toList.contains '\x00' then .error .unusable
  else
    match readFile files path with
    | .ok content => .ok (.bytes content)
    | .error cause =>
      .error (.outage (.configuration setting ("cannot read key file: " ++ cause) none))

/-- The shared secret. -/
def secretKey (s : Settings) : Except Stop Key :=
  if s.jwtSecret.isEmpty then
    .error (.outage (.configuration "JWT_SECRET" "required for HS* algorithms" none))
  else .ok (.text s.jwtSecret)

/-- The key that signs tokens of an algorithm. -/
def signingKey (s : Settings) (files : Directory) (algorithm : String) : Except Stop Key :=
  if Settings.usesSecret algorithm then secretKey s
  else readKey files s.privateKeyPath "JWT_PRIVATE_KEY_PATH"

/-- The key that checks tokens of an algorithm. -/
def verificationKey (s : Settings) (files : Directory) (algorithm : String) : Except Stop Key :=
  if Settings.usesSecret algorithm then secretKey s
  else readKey files s.publicKeyPath "JWT_PUBLIC_KEY_PATH"

end Guildhall.Token
