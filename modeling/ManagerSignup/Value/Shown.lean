import ManagerSignup.Value
import ManagerSignup.Text.Quoted
import ManagerSignup.Decimal.Layout

/-!
# Values as Messages Show Them

The text of a value inside a message or an error's details.

There are two ways to show a value and they differ only at the top. `literal`
quotes every text, so that two values with different contents look different;
`plain` leaves a value that is a text as it is, because it is the message
itself. Inside a list or an object the entries are literals either way.

## Main definitions

* `Value.literal`: A value with every text quoted.
* `Value.plain`: A text as it is, everything else as a literal.
* `Value.tuple`: Several values side by side.
* `Value.kind`: What the shape of a value is called.
-/

namespace ManagerSignup

namespace Value

/-- The texts between two marks, with a comma and a space between them. -/
def enclose (opening : Char) (parts : List Text) (closing : Char) : Text :=
  opening :: List.intercalate [',', ' '] parts ++ [closing]

mutual

/-- A value with every text in it quoted. -/
def literal : Value → Text
  | null => ['N', 'o', 'n', 'e']
  | bool true => ['T', 'r', 'u', 'e']
  | bool false => ['F', 'a', 'l', 's', 'e']
  | int i => integerText i
  | float x => plainNumbers.number x
  | text s => Text.quote (Text.ofString s)
  | list items => enclose '[' (literals items) ']'
  | object members => enclose '\x7b' (memberLiterals members) '\x7d'

/-- The literals of the items of a list. -/
def literals : List Value → List Text
  | [] => []
  | x :: rest => literal x :: literals rest

/-- The literals of the members of an object, each with its name in front. -/
def memberLiterals : List (String × Value) → List Text
  | [] => []
  | (name, x) :: rest =>
      (Text.quote (Text.ofString name) ++ ':' :: ' ' :: literal x) :: memberLiterals rest

end

/-- A text as it is, everything else as a literal. -/
def plain : Value → Text
  | text s => Text.ofString s
  | v => v.literal

/-- Several values side by side in parentheses; a single one is followed by a
    comma. -/
def tuple (values : List Value) : Text :=
  match values with
  | [x] => '(' :: x.literal ++ [',', ')']
  | _ => enclose '(' (literals values) ')'

/-- What the shape of a value is called in a message. -/
def kind : Value → String
  | null => "NoneType"
  | bool _ => "bool"
  | int _ => "int"
  | float _ => "float"
  | text _ => "str"
  | list _ => "list"
  | object _ => "dict"

end Value

end ManagerSignup
