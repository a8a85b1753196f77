import ManagerSignup.Failure.AppError
import ManagerSignup.Field.Grammar
import ManagerSignup.Submission.Entries

/-!
# Submission Checks

What has to hold before anything is sent.

While someone types, a value only has to be on its way. At submission the
passwords have to agree and every guarded field has to be complete, and the
first thing that is not so is told. The passwords come first, then the fields in
the order of the form. A field is looked at without the blanks around it, and it
may be empty, end in a separator although it is a username, or be incomplete;
these are told apart in this order.

## Main definitions

* `checkField`: The fault of one field.
* `checkEntries`: The first fault of what was entered.
-/

namespace ManagerSignup

/-- The fault of passwords that do not agree. -/
def passwordMismatch : AppError :=
  .ofCheck .passwordMismatch "Passwords do not match." Input.confirmation.key

/-- The fault of a field that is empty. -/
def requiredMissing (f : Field) : AppError :=
  .ofCheck .requiredFieldMissing (f.label ++ " is required.") f.key

/-- The fault of a field whose value is not as it should be. -/
def badFormat (f : Field) (message : String) (value : Text) : AppError :=
  .ofCheck .invalidFormat message f.key [("value", .text (Text.toString value))]

/-- The fault of a field with a value that has no blanks around it. -/
def checkField (f : Field) (value : Text) : Except AppError Unit :=
  if value.isEmpty then
    .error (requiredMissing f)
  else if f = .username ∧ value.getLast?.any isSeparator then
    .error (badFormat f "Username cannot end with '.' or '_'." value)
  else if !f.complete value then
    .error (badFormat f (f.label ++ " is incomplete or has an invalid format.") value)
  else
    .ok ()

/-- The first fault of some fields. -/
def checkFields (e : Entries) : List Field → Except AppError Unit
  | [] => .ok ()
  | f :: rest =>
      match checkField f (Text.trim (e.text (.guarded f))) with
      | .ok () => checkFields e rest
      | .error fault => .error fault

/-- The first fault of what was entered. -/
def checkEntries (e : Entries) : Except AppError Unit :=
  if e.passwordsMatch then checkFields e Field.all else .error passwordMismatch

end ManagerSignup
