/-
Guildhall/Signature.lean

What can be called with named arguments: parameters that must be given,
parameters with a default, and what is made of the arguments.  An argument
without a parameter is refused, unless the signature is open.
-/
import Guildhall.Value

namespace Guildhall

/-- The parameters of a call and the call itself. -/
structure Signature (α : Type) where
  required : List String := []
  optional : List (String × Value) := []
  /-- Whether arguments without a parameter are left alone. -/
  isOpen : Bool := false
  /-- The call, given the argument of each parameter. -/
  call : (String → Value) → α

namespace Signature

variable {α : Type}

/-- Whether an argument of a name has a parameter. -/
def hasParameter (s : Signature α) (name : String) : Bool :=
  s.required.contains name || (s.optional.lookup name).isSome

/-- Whether every required argument is given and every given one has a
parameter. -/
def admits (s : Signature α) (args : List (String × Value)) : Bool :=
  s.required.all (fun name => (args.lookup name).isSome) &&
    (s.isOpen || args.all fun arg => s.hasParameter arg.1)

/-- The argument of a parameter: the given one, or the default. -/
def argument (s : Signature α) (args : List (String × Value)) (name : String) : Value :=
  (args.lookup name).getD ((s.optional.lookup name).getD .null)

/-- The call with arguments, if they fit. -/
def callWith? (s : Signature α) (args : List (String × Value)) : Option α :=
  if s.admits args then some (s.call (s.argument args)) else none

/-- The arguments without a parameter. -/
def extras (s : Signature α) (args : List (String × Value)) : List (String × Value) :=
  args.filter fun arg => !s.hasParameter arg.1

end Signature

end Guildhall
