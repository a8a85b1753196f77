import ManagerSignup.Failure.AppError
import ManagerSignup.Failure.Fault
import ManagerSignup.Journal

/-!
# Failures

Anything that can go wrong, and the application error it amounts to.

A failure is either an application error already, and then it stays the very
same, or a fault of the platform. A fault is told to the user in its own words
if it has any. Its family decides the rest: a bad value is a failed check, an
unreachable or silent server is a failed submission that may be tried again,
another fault of the system is unexpected but known, and what belongs to no
family is unexpected, is not told in its own words, and leaves a warning.

## Main definitions

* `Failure`: An application error or a fault.
* `Failure.name`, `Failure.text`: What a failure is called and what it says.
* `Failure.normalize`: The application error a failure amounts to.
-/

namespace ManagerSignup

/-- Anything that can go wrong. -/
inductive Failure where
  | app (e : AppError)
  | fault (f : Fault)

namespace Failure

/-- What a failure is called. -/
def name : Failure → String
  | app e => e.kind.name
  | fault f => f.name

/-- What a failure says. -/
def text : Failure → String
  | app e => e.userMessage
  | fault f => f.text

/-- Name and text together. -/
def technical (x : Failure) : String :=
  x.name ++ ": " ++ x.text

/-- What the faults of a family amount to: kind, code, and what the user is told
    if the fault says nothing. -/
def meaning? : FaultFamily → Option (ErrorKind × ErrorCode × String)
  | .value => some (.validation, .invalidInput, "Invalid input provided.")
  | .timeout => some (.submission, .backendFailure, "The server did not answer in time.")
  | .connection => some (.submission, .backendFailure, "Could not reach the server.")
  | .system => some (.unexpected, .osError, "System error occurred.")
  | .other => none

/-- The application error a fault amounts to. -/
def ofFault (f : Fault) (context : Members) : AppError :=
  let technical := some (fault f).technical
  match meaning? f.family with
  | some (kind, code, silent) =>
      .ofKind kind code (if f.text.isEmpty then silent else f.text) technical context
  | none => .ofKind .unexpected .unknown "An unexpected error occurred" technical context

/-- The application error a failure amounts to; the context is only for a fault,
    because an application error has its own. -/
def normalize (x : Failure) (context : Members := []) : AppError :=
  match x with
  | app e => e
  | fault f => ofFault f context

/-- The warning that a fault of no family leaves. -/
def normalizeLog (x : Failure) : List Entry :=
  match x with
  | app _ => []
  | fault f =>
      match meaning? f.family with
      | some _ => []
      | none =>
          [{ level := .warning, source := .failures,
             message := "Unmapped exception " ++ x.technical }]

end Failure

end ManagerSignup
