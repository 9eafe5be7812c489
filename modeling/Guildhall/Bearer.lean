/-
Guildhall/Bearer.lean

The credential in an `Authorization` header: the word `bearer` in any
letter case, white space, and a token without white space at its ends.
-/
import Guildhall.Stop
import Guildhall.Text.Blank
import Guildhall.Text.Upper

namespace Guildhall.Bearer

/-- The word in front of a token. -/
def scheme : String := "bearer"

/-- Cuts a text at its first run of white space: what is before the run and
what is after it. -/
def cutBlank (cs : List Char) : List Char × List Char :=
  (cs.takeWhile (!Text.isBlank ·), (cs.dropWhile (!Text.isBlank ·)).dropWhile Text.isBlank)

/-- The first word of a text and what comes behind the white space after it, if
anything does. -/
def split? (cs : List Char) : Option (List Char × List Char) :=
  let (word, rest) := cutBlank cs
  if rest.isEmpty then none else some (word, rest)

/-- The token of a header, if it has one. -/
def token? (header : String) : Option String :=
  match split? (Text.trimBy Text.isBlank header.toList) with
  | none => none
  | some (word, rest) =>
    if Text.lower (String.ofList word) ≠ scheme then none
    else
      let token := Text.trimBy Text.isBlank rest
      if token.isEmpty then none else some (String.ofList token)

/-- The token of a header that may be missing. -/
def credential (header : Option String) : Except Denial String :=
  match header.bind token? with
  | some token => .ok token
  | none => .error .invalidCredential

end Guildhall.Bearer
