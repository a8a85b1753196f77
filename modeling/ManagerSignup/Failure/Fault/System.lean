import ManagerSignup.Failure.Fault.Arguments

/-!
# System Faults

Faults of the system carry its number for them, and show it.

Raised with a number and a text, and perhaps with one file or two, a system
fault has a form of its own, and with fewer or more arguments it has none. The
general system fault is also told apart by its number. It takes the name of the
fault that the number stands for, while a fault that already has a name of its
own keeps it whatever its number is.

A fault of blocking may say in the place of the file how much was written before
it blocked. Whether it does is told by the shape of the argument, and a count is
not shown.

## Main definitions

* `Fault.isSystemName`: The fault is one of the system.
* `Fault.systemNameFor`: The name of a system fault with its arguments.
* `Fault.ofSystem`: A system fault from its arguments.
-/

namespace ManagerSignup

namespace Fault

/-- A system fault in the wide sense: timeouts and broken connections are faults
    of the system too. -/
def isSystemName (name : String) : Bool :=
  match familyOf name with
  | .system => true
  | .timeout => true
  | .connection => true
  | _ => false

/-- The name of the system fault with a number. -/
def numbered : List (Int × String) :=
  [(1, "PermissionError"), (2, "FileNotFoundError"), (3, "ProcessLookupError"),
   (4, "InterruptedError"), (10, "ChildProcessError"), (11, "BlockingIOError"),
   (13, "PermissionError"), (17, "FileExistsError"), (20, "NotADirectoryError"),
   (21, "IsADirectoryError"), (32, "BrokenPipeError"), (103, "ConnectionAbortedError"),
   (104, "ConnectionResetError"), (108, "BrokenPipeError"), (110, "TimeoutError"),
   (111, "ConnectionRefusedError"), (114, "BlockingIOError"), (115, "BlockingIOError")]

/-- The number a system fault was raised with. It has to be whole, and a truth
    value counts as one. -/
def number? : Value → Option Int
  | .int i => some i
  | .bool b => some (Value.ofBool b)
  | _ => none

/-- The name of a system fault raised with a number: only the general system
    fault takes its name from there. -/
def systemNameFor (name : String) (number : Value) : String :=
  if name = "OSError" then ((number? number).bind fun n => numbered.lookup n).getD name else name

/-- The argument is a number of whatever kind. -/
def isNumber : Value → Bool
  | .int _ => true
  | .float _ => true
  | .bool _ => true
  | _ => false

/-- The file an argument names, if any. What a fault of blocking has in the place
    of a file is a count if it is a number, and then it has to be a whole one. -/
def fileArgument (name : String) (argument : Value) : Except Fault (Option Value) :=
  match argument with
  | .null => .ok none
  | x =>
      if name = "BlockingIOError" && isNumber x then
        (wholeArgument (badValue "cannot fit 'int' into an index-sized integer") x).map
          fun _ => none
      else .ok (some x)

/-- The files of a system fault as they are shown: the second is only told along
    with the first. -/
def filesText (file other : Option Value) : Text :=
  match file with
  | none => []
  | some file =>
      ':' :: ' ' :: file.literal ++
        match other with
        | some other => [' ', '-', '>', ' '] ++ other.literal
        | none => []

/-- An argument that was given and is not null. -/
def given? : Option Value → Option Value
  | some .null => none
  | x => x

/-- The text of a system fault with a number, a text and files. -/
def systemText (number text : Value) (file other : Option Value) : Text :=
  ['[', 'E', 'r', 'r', 'n', 'o', ' '] ++ number.plain ++ ']' :: ' ' :: text.plain ++
    filesText file other

/-- A system fault raised with given arguments: number and text, a file in the
    third place, and another one in the fifth. -/
def ofSystem (name : String) (arguments : List Value) : Except Fault Fault :=
  match arguments with
  | number :: text :: rest =>
      if rest.length ≤ 3 then do
        let name := systemNameFor name number
        let file ← fileArgument name (rest[0]?.getD .null)
        return named name (Text.toString (systemText number text file (given? rest[2]?)))
      else return named name (Text.toString (plainText arguments))
  | _ => return named name (Text.toString (plainText arguments))

end Fault

end ManagerSignup
