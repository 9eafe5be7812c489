/-
Guildhall/Text/Part.lean

Texts inside of texts: at the beginning, at the end and anywhere.
`after?` is what follows the beginning.
-/

namespace Guildhall.Text

/-- Whether a row of characters stands somewhere in another one. -/
def holdsChars (part : List Char) : List Char → Bool
  | [] => part.isEmpty
  | c :: cs => part.isPrefixOf (c :: cs) || holdsChars part cs

/-- Whether a text stands somewhere in another one. -/
def holdsPart (part s : String) : Bool := holdsChars part.toList s.toList

/-- What follows a row of characters at the beginning of another one. -/
def after? : List Char → List Char → Option (List Char)
  | [], cs => some cs
  | _ :: _, [] => none
  | p :: ps, c :: cs => if p = c then after? ps cs else none

/-- Whether a text begins with another one. -/
def beginsWith (part s : String) : Bool := part.toList.isPrefixOf s.toList

/-- Whether a text ends with another one. -/
def endsWith (part s : String) : Bool := part.toList.isSuffixOf s.toList

/-- What follows the beginning is what is left of the text without it. -/
theorem after?_eq_some_iff {part cs rest : List Char} :
    after? part cs = some rest ↔ cs = part ++ rest := by
  induction part generalizing cs with
  | nil => simp [after?, eq_comm]
  | cons p ps ih =>
    cases cs with
    | nil => simp [after?]
    | cons c cs =>
      by_cases h : p = c
      · simp [after?, h, ih]
      · simp [after?, h, Ne.symm h]

end Guildhall.Text
