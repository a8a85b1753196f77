import ManagerSignup.Failure.Fault.Coding
import ManagerSignup.Failure.Fault.Syntax
import ManagerSignup.Failure.Fault.System

/-!
# Raising Faults

A fault from its name and the arguments it is raised with.

The name decides what becomes of the arguments. The faults of the system, of
codings and of program texts have rules of their own, and a group of faults
cannot be raised at all, because none of the values that can be given is a
fault. Every other fault takes any arguments and shows them: none as nothing,
one as it is, and several side by side.

## Main definitions

* `Fault.ofGroup`: What comes of raising a group.
* `Fault.ofArguments`: The fault raised under a name with given arguments, or
  the one that raising it is.
-/

namespace ManagerSignup

namespace Fault

/-- The general system fault goes by three names. -/
def properName (name : String) : String :=
  if name = "IOError" ∨ name = "EnvironmentError" then "OSError" else name

/-- What raises a group of faults. -/
def groupTaker : String := "BaseExceptionGroup.__new__()"

/-- The entries of a value that keeps them in order. -/
def sequence? : Value → Option (List Value)
  | .list items => some items
  | .text s => some ((Text.ofString s).map fun c => .text (Text.toString [c]))
  | _ => none

/-- Raising a group of faults: a message and the faults, of which there has to be
    one. -/
def ofGroup (arguments : List Value) : Except Fault Fault := do
  checkCount groupTaker 2 2 arguments.length
  let _ ← textArgument (groupTaker ++ " ") 1 (arguments[0]?.getD .null)
  match sequence? (arguments[1]?.getD .null) with
  | none => .error (badShape "second argument (exceptions) must be a sequence")
  | some [] => .error (badValue "second argument (exceptions) must be a non-empty sequence")
  | some _ => .error (badValue "Item 0 of second argument (exceptions) is not an exception")

/-- A fault of a look-up shows its one argument as a literal, and any other shows
    its arguments as they are. -/
def ordinaryText (name : String) (arguments : List Value) : Text :=
  match arguments with
  | [x] => if name = "KeyError" then x.literal else x.plain
  | _ => plainText arguments

/-- The fault raised under a name with given arguments, or the one that raising
    it is. -/
def ofArguments (name : String) (arguments : List Value) : Except Fault Fault :=
  let name := properName name
  if isSystemName name then ofSystem name arguments
  else
    match name with
    | "UnicodeEncodeError" => ofEncoding name arguments
    | "UnicodeTranslateError" => ofTranslation name arguments
    | "UnicodeDecodeError" => ofDecoding arguments
    | "SyntaxError" => ofSyntax name arguments
    | "IndentationError" => ofSyntax name arguments
    | "TabError" => ofSyntax name arguments
    | "ExceptionGroup" => ofGroup arguments
    | "BaseExceptionGroup" => ofGroup arguments
    | _ => .ok (named name (Text.toString (ordinaryText name arguments)))

end Fault

end ManagerSignup
