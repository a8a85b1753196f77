import ManagerSignup.Failure.Fault
import ManagerSignup.Value.Shown

/-!
# Arguments of Faults

What a fault is raised with, and what is wrong with it.

Most faults take whatever they are given. Some insist on the number and the
shapes of their arguments, and raising them with others is a fault of its own,
which then takes the place of the one that was meant. The number is looked at
first and the shapes from left to right, so of several mistakes the leftmost is
told.

A whole number has to fit into a machine word. How it is told that it does not
depends on what the number is for, so the fault is an argument.

## Main definitions

* `Fault.checkCount`: The number of arguments is as it should be.
* `Fault.textArgument`: An argument that has to be a text.
* `Fault.wholeArgument`: An argument that has to be a whole number.
-/

namespace ManagerSignup

namespace Fault

/-- The number of arguments lies between two bounds, both included; `taker` is
    what was given the arguments. -/
def checkCount (taker : String) (least most given : Nat) : Except Fault Unit :=
  if least ≤ given ∧ given ≤ most then .ok ()
  else
    let bound := if given < least then least else most
    let relation :=
      if least = most then "exactly" else if given < least then "at least" else "at most"
    .error (badShape
      (taker ++ " takes " ++ relation ++ " " ++ toString bound ++
        (if bound = 1 then " argument (" else " arguments (") ++ toString given ++ " given)"))

/-- What a value that should have been a text is called. -/
def kindForText (x : Value) : String :=
  match x with
  | .null => "None"
  | _ => x.kind

/-- An argument that has to be a text; `lead` says whose argument it is, and
    positions are counted from one. -/
def textArgument (lead : String) (position : Nat) (x : Value) : Except Fault Text :=
  match x with
  | .text s => .ok (Text.ofString s)
  | _ =>
      .error (badShape
        (lead ++ "argument " ++ toString position ++ " must be str, not " ++ kindForText x))

/-- The number fits into a signed machine word. -/
def fitsWord (i : Int) : Bool :=
  -(Int.pow 2 63) ≤ i && i < Int.pow 2 63

/-- An argument that has to be a whole number, a truth value being one; `tooLarge`
    is the fault of a number that does not fit. -/
def wholeArgument (tooLarge : Fault) (x : Value) : Except Fault Int :=
  match x with
  | .int i => if fitsWord i then .ok i else .error tooLarge
  | .bool b => .ok (Value.ofBool b)
  | _ => .error (badShape ("'" ++ x.kind ++ "' object cannot be interpreted as an integer"))

/-- The text of arguments that have no form of their own. -/
def plainText (arguments : List Value) : Text :=
  match arguments with
  | [] => []
  | [x] => x.plain
  | xs => Value.tuple xs

end Fault

end ManagerSignup
