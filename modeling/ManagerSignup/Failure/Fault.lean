import ManagerSignup.Text.Utf8
import ManagerSignup.UnknownName
import ManagerSignup.Value.Reader

/-!
# Faults

What goes wrong outside the program's own checks: a bad value, a connection
that breaks, a file that cannot be read.

The platform names its faults and sorts them into families, and the program asks
for nothing but the name, the family and the text. The family follows from the
name, so a fault is told by the other two.

## Main definitions

* `FaultFamily`: The families faults are sorted into.
* `Fault`: A fault with its name, family and text.
* `Fault.named`: The fault with a name and a text.
* `Fault.ofBytes`: The fault of reading bytes that are not UTF-8.
* `Fault.ofReadError`: The fault of reading a text that is no value.
* `Fault.ofUnknownName`: The fault of asking for a name that does not exist.
-/

namespace ManagerSignup

/-- The families the platform sorts its faults into. -/
inductive FaultFamily where
  | value
  | timeout
  | connection
  | system
  | other
  deriving DecidableEq, Repr

/-- Something that went wrong outside the program's own checks. -/
structure Fault where
  name : String
  family : FaultFamily
  text : String
  deriving DecidableEq, Repr

namespace Fault

/-- The names of the faults that belong to a family. -/
def families : List (String × FaultFamily) :=
  [("ValueError", .value), ("UnicodeError", .value), ("UnicodeDecodeError", .value),
   ("UnicodeEncodeError", .value), ("UnicodeTranslateError", .value),
   ("JSONDecodeError", .value),
   ("TimeoutError", .timeout),
   ("ConnectionError", .connection), ("BrokenPipeError", .connection),
   ("ConnectionAbortedError", .connection), ("ConnectionRefusedError", .connection),
   ("ConnectionResetError", .connection),
   ("OSError", .system), ("BlockingIOError", .system), ("ChildProcessError", .system),
   ("FileExistsError", .system), ("FileNotFoundError", .system), ("InterruptedError", .system),
   ("IsADirectoryError", .system), ("NotADirectoryError", .system), ("PermissionError", .system),
   ("ProcessLookupError", .system)]

/-- The family of the faults with a name. -/
def familyOf (name : String) : FaultFamily :=
  (families.lookup name).getD .other

/-- The fault with a name and a text. -/
def named (name text : String) : Fault :=
  { name, family := familyOf name, text }

/-- A value that is not among those that are possible. -/
def badValue (text : String) : Fault :=
  named "ValueError" text

/-- A value of the wrong shape. -/
def badShape (text : String) : Fault :=
  named "TypeError" text

/-- The fault of reading bytes that are not UTF-8. -/
def ofBytes (bytes : List Nat) : Fault :=
  named "UnicodeDecodeError" (((utf8Fault? bytes).map Utf8Fault.message).getD "")

/-- The fault of reading a text that is no value. -/
def ofReadError (e : ReadError) : Fault :=
  match e with
  | .malformed _ _ _ _ => named "JSONDecodeError" e.message
  | .tooManyDigits _ => badValue e.message
  | .tooDeep _ => named "RecursionError" e.message

/-- The fault of asking for a name that does not exist. -/
def ofUnknownName (e : UnknownName) : Fault :=
  badValue e.message

end Fault

end ManagerSignup
