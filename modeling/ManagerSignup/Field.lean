import ManagerSignup.UnknownName

/-!
# Guarded Fields

The five fields of the form whose contents follow a grammar.

A field is only its identity here. What may be typed into it is in
`Field.Grammar`, and what happens when something is typed in `Field.Insertion`.
The order of `Field.all` matters twice: it is the order in which the form shows
its fields, and the order in which a submission is checked, so it decides which
of several faults is told first.

## Main definitions

* `Field`: The five fields.
* `Field.all`: The fields in the order of the form.
* `Field.key`, `Field.ofKey`: The name of a field in records and messages.
* `Field.label`: What the form calls the field.
* `Field.hint`: What the form says about a value that cannot be right.
-/

namespace ManagerSignup

/-- A field whose contents follow a grammar. -/
inductive Field where
  | name
  | username
  | documentNumber
  | dialCode
  | phoneNumber
  deriving DecidableEq, Repr

namespace Field

/-- The fields in the order of the form. -/
def all : List Field :=
  [name, username, documentNumber, dialCode, phoneNumber]

/-- The name of a field in records and messages. -/
def key : Field → String
  | name => "name"
  | username => "username"
  | documentNumber => "document_number"
  | dialCode => "phone_prefix"
  | phoneNumber => "phone_number"

/-- The field with a given key. -/
def ofKey (key : String) : Except UnknownName Field :=
  match all.find? fun f => f.key = key with
  | some f => .ok f
  | none => .error ⟨.field, key⟩

/-- What the form calls the field. -/
def label : Field → String
  | name => "Name"
  | username => "Username"
  | documentNumber => "Document number"
  | dialCode => "Phone prefix"
  | phoneNumber => "Phone number"

/-- What the form says about a value that cannot be right. -/
def hint : Field → String
  | name => "Only letters and spaces are allowed"
  | username => "Letters, digits, '.' and '_' only; cannot start or end with '.' or '_'"
  | documentNumber => "Digits only, not starting with 0"
  | dialCode => "Prefix must be +57"
  | phoneNumber => "Phone number must have 10 digits and start with 3"

end Field

end ManagerSignup
