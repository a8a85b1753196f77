import ManagerSignup.Table
import ManagerSignup.Text
import ManagerSignup.Decimal.Binary64

/-!
# Values

The loosely typed values that reach the program from outside: a stored setting,
the body of a server's answer, the details attached to an error.

The members of an object are kept in the order in which they were first named,
because that is the order in which they are shown. Assigning to a name that is
there already changes its value and not its place.

`Value.same` is equality of contents. It does not ask in which order the members
of two objects stand, and it compares numbers as numbers, so that a one, a one
with a point and a true are the same.

## Main definitions

* `Value`: A value of any shape.
* `Members`: Named values in order.
* `Value.isEmpty`: Whether a value counts as nothing.
* `Value.same`: Equality of contents.
-/

namespace ManagerSignup

/-- A value whose shape is only known when it is looked at. -/
inductive Value where
  | null
  | bool (b : Bool)
  | int (i : Int)
  | float (x : Binary64)
  | text (s : String)
  | list (items : List Value)
  | object (members : List (String × Value))

/-- Named values in the order in which the names were first assigned. -/
abbrev Members := Table String Value

namespace Value

/-- The value counts as nothing: no text, no number, no entries. -/
def isEmpty : Value → Bool
  | null => true
  | bool b => !b
  | int i => i = 0
  | float x => x.isZero
  | text s => s.isEmpty
  | list items => items.isEmpty
  | object members => members.isEmpty

/-- The integer a truth value counts as. -/
def ofBool (b : Bool) : Int :=
  if b then 1 else 0

mutual

/-- Equality of contents. -/
def same : Value → Value → Bool
  | null, null => true
  | bool a, bool b => a = b
  | bool a, int j => ofBool a = j
  | int i, bool b => i = ofBool b
  | int i, int j => i = j
  | bool a, float y => y.sameInteger (ofBool a)
  | int i, float y => y.sameInteger i
  | float x, bool b => x.sameInteger (ofBool b)
  | float x, int j => x.sameInteger j
  | float x, float y => x.sameNumber y
  | text s, text t => s = t
  | list xs, list ys => sameItems xs ys
  | object ms, object ns => ms.length = ns.length && sameMembers ms ns
  | _, _ => false

/-- Equality of lists, item by item. -/
def sameItems : List Value → List Value → Bool
  | [], [] => true
  | x :: xs, y :: ys => same x y && sameItems xs ys
  | _, _ => false

/-- Every member on the left has its like on the right. -/
def sameMembers : List (String × Value) → List (String × Value) → Bool
  | [], _ => true
  | (name, x) :: rest, others =>
      (match Table.find? name others with
        | some y => same x y
        | none => false) && sameMembers rest others

end

end Value

end ManagerSignup
