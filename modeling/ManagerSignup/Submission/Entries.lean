import ManagerSignup.Field

/-!
# Form Entries

The inputs of the form and what was entered into them.

Besides the five guarded fields the form has three inputs that take any text:
the password, its confirmation and the type of document. What was entered is a
partial thing, since an input may be missing altogether, and a missing entry
counts as an empty one wherever it is looked at.

## Main definitions

* `Input`: The eight inputs.
* `Input.all`: The inputs in the order of the form.
* `Entries`: What was entered.
* `Entries.text`: The text of an input, empty if it is missing.
-/

namespace ManagerSignup

/-- An input of the form. -/
inductive Input where
  | guarded (f : Field)
  | password
  | confirmation
  | documentType
  deriving DecidableEq, Repr

namespace Input

/-- The inputs in the order of the form. -/
def all : List Input :=
  Field.all.map guarded ++ [password, confirmation, documentType]

/-- The name of an input in records and messages. -/
def key : Input → String
  | guarded f => f.key
  | password => "password"
  | confirmation => "confirm_password"
  | documentType => "document_type"

/-- The input with a given key. -/
def ofKey? (key : String) : Option Input :=
  all.find? fun i => i.key = key

/-- The field whose grammar guards the input. -/
def guard? : Input → Option Field
  | guarded f => some f
  | _ => none

/-- What an empty input suggests to enter. -/
def placeholder : Input → String
  | guarded .dialCode => "+57"
  | guarded .phoneNumber => "3001234567"
  | _ => ""

end Input

/-- What was entered; an input may be missing. -/
structure Entries where
  text? : Input → Option Text

namespace Entries

/-- The text of an input, empty if it is missing. -/
def text (e : Entries) (i : Input) : Text :=
  (e.text? i).getD []

/-- The password and its confirmation are the same. -/
def passwordsMatch (e : Entries) : Bool :=
  e.text .password = e.text .confirmation

end Entries

end ManagerSignup
