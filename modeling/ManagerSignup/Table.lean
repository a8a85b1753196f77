/-!
# Tables

Keys with values, in the order in which the keys were first assigned.

The order is part of what a table is: it is the order in which the members of an
object are shown, the details of an error are listed, and the fields of a form
are checked. Assigning to a key that is there changes its value and leaves it in
its place, so the order of the keys only ever grows at the end.

## Main definitions

* `Table`: Keys with values in order.
* `Table.find?`: The value of a key.
* `Table.put`: Assigning a value.
* `Table.putNew`: Assigning a value to a key that is not there yet.
* `Table.keys`: The keys in order.
-/

namespace ManagerSignup

/-- Keys with values, in the order in which the keys were first assigned. -/
abbrev Table (κ α : Type) := List (κ × α)

namespace Table

variable {κ α : Type} [DecidableEq κ]

/-- The value of a key. -/
def find? (key : κ) : Table κ α → Option α
  | [] => none
  | (k, v) :: rest => if k = key then some v else find? key rest

/-- Assigning a value: a key that is there keeps its place, a new one comes
    last. -/
def put (key : κ) (value : α) : Table κ α → Table κ α
  | [] => [(key, value)]
  | (k, v) :: rest => if k = key then (k, value) :: rest else (k, v) :: put key value rest

/-- Assigning a value only if the key is not there yet. -/
def putNew (key : κ) (value : α) (table : Table κ α) : Table κ α :=
  match find? key table with
  | some _ => table
  | none => table ++ [(key, value)]

/-- The keys in order. -/
def keys (table : Table κ α) : List κ :=
  table.map Prod.fst

end Table

end ManagerSignup
