import ManagerSignup.Failure.Report

/-!
# Casebook

Failures under names, and what happens to them when they are captured.

An application error is one thing however many names it goes by: capturing it
under one name adds details that are then seen under every other. A fault is
never changed. What it amounts to is a new error with an identity of its own,
and a second capture of the same fault makes a second error. The casebook keeps
the two apart by numbering the failures it has seen; a name stands for a number,
and so does everything that is said about which error came back or was announced.

## Main definitions

* `Case`: A failure, and whether it had been raised.
* `Casebook`: Numbered failures and the names they go by.
* `Captured`: What came out of capturing.
* `Casebook.file`: A new failure under a name.
* `Casebook.settle`: Entering the error that a case amounts to.
* `Casebook.capture`, `Casebook.handle`: Capturing what goes by a name.
* `Casebook.same?`: Whether two names stand for equal things.
-/

namespace ManagerSignup

/-- A failure, and whether it had been raised. -/
structure Case where
  failure : Failure
  raised : Bool

/-- Numbered failures, and the names they go by. -/
structure Casebook where
  cases : List Case
  names : Table String Nat

/-- What came out of capturing: the number of the error that came back and what
    it holds, whether it is the very failure that was captured, the numbers of
    the errors that were announced, and the lines in the journal. -/
structure Captured where
  number : Nat
  error : AppError
  isSame : Bool
  announced : List Nat
  log : List Entry

namespace Casebook

/-- A casebook without cases. -/
def empty : Casebook :=
  { cases := [], names := [] }

/-- The number a name stands for. -/
def number? (book : Casebook) (name : String) : Option Nat :=
  Table.find? name book.names

/-- The case a name stands for. -/
def case? (book : Casebook) (name : String) : Option Case := do
  let i ← book.number? name
  book.cases[i]?

/-- A new failure under a name. -/
def file (book : Casebook) (name : String) (failure : Failure) (raised : Bool) : Casebook :=
  { cases := book.cases ++ [⟨failure, raised⟩]
    names := Table.put name book.cases.length book.names }

/-- Entering the error that a case amounts to: an application error takes the
    place of what it was, a fault gets a new case beside it. With the casebook
    comes the number of the error. -/
def settle (book : Casebook) (i : Nat) (c : Case) (error : AppError) (target : String) :
    Casebook × Nat :=
  match c.failure with
  | .app _ =>
      ({ cases := book.cases.set i ⟨.app error, c.raised⟩
         names := Table.put target i book.names }, i)
  | .fault _ => (book.file target (.app error) false, book.cases.length)

/-- Capturing the failure that goes by a name; the error goes by `target`
    afterwards. -/
def capture (book : Casebook) (name : String) (details : Members) (target : String) :
    Option (Casebook × Captured) := do
  let i ← book.number? name
  let c ← book.cases[i]?
  let error := ManagerSignup.capture c.failure details
  let (after, number) := book.settle i c error target
  return (after, ⟨number, error, number = i, [], c.failure.normalizeLog⟩)

/-- Capturing and announcing the failure that goes by a name. -/
def handle (book : Casebook) (name : String) (details : Members) (target : String) :
    Option (Casebook × Captured) := do
  let i ← book.number? name
  let c ← book.cases[i]?
  let report := ManagerSignup.handle c.failure c.raised details
  let (after, number) := book.settle i c report.error target
  return (after, ⟨number, report.error, number = i, [number], report.log⟩)

/-- Whether two names stand for equal things: application errors are compared by
    what they hold, faults only by being the same. -/
def same? (book : Casebook) (name other : String) : Option Bool := do
  let i ← book.number? name
  let j ← book.number? other
  let a ← book.cases[i]?
  let b ← book.cases[j]?
  return match a.failure, b.failure with
    | .app x, .app y => x.same y
    | _, _ => i = j

end Casebook

end ManagerSignup
