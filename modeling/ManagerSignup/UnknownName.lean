import ManagerSignup.Text.Quoted

/-!
# Unknown Names

Several closed families of things are named from outside: fields, error codes,
severities. A name that belongs to none of a family's members is an error of its
own, and it says which family was asked and what the name was.

## Main definitions

* `Family`: The families that are named from outside.
* `UnknownName`: A name that no member of a family has.
* `UnknownName.message`: The error in words.
-/

namespace ManagerSignup

/-- The families whose members are named from outside. -/
inductive Family where
  | field
  | errorCode
  | severity
  deriving DecidableEq, Repr

/-- What a family is called in a message. -/
def Family.name : Family → String
  | field => "FieldId"
  | errorCode => "ErrorCode"
  | severity => "ErrorSeverity"

/-- A name that no member of the family has. -/
structure UnknownName where
  family : Family
  name : String
  deriving DecidableEq, Repr

/-- The error in words. -/
def UnknownName.message (e : UnknownName) : String :=
  Text.quoteString e.name ++ " is not a valid " ++ e.family.name

end ManagerSignup
