import ManagerSignup.Submission.Backend
import ManagerSignup.Submission.Check

/-!
# Submissions

From what was entered to the answer of the server.

A submission is checked, turned into a record, and handed over, and it stops at
the first of these that fails. Whatever happens is told by an `Outcome`: the
record if one was handed over, the reply or the failure, and the journal. A
failed check hands nothing over, so whether the server was bothered can be read
off the record.

## Main definitions

* `Outcome`: What became of a submission.
* `submit`: One submission.
* `submitAll`: Several submissions to one backend.
-/

namespace ManagerSignup

/-- What became of a submission. -/
structure Outcome where
  sent : Option Record
  result : Except Failure String
  log : List Entry

/-- One submission to a backend that was handed `calls` records before. -/
def submit (e : Entries) (organization : String) (backend : Backend) (calls : Nat) : Outcome :=
  match checkEntries e with
  | .error fault => { sent := none, result := .error (.app fault), log := [] }
  | .ok () =>
      let record := Record.ofEntries e organization
      let started : Entry :=
        { level := .info, source := .submission,
          message := "Submitting registration for username '" ++
            Text.toString record.username ++ "'" }
      match backend.answer calls record with
      | .reply message log =>
          { sent := some record, result := .ok message, log := started :: log }
      | .fail x => { sent := some record, result := .error x, log := [started] }

/-- Several submissions, one after the other, to a backend that was handed
    `calls` records before. -/
def submitAll (organization : String) (backend : Backend) :
    Nat → List Entries → List Outcome
  | _, [] => []
  | calls, e :: rest =>
      let outcome := submit e organization backend calls
      outcome :: submitAll organization backend (calls + outcome.sent.toList.length) rest

end ManagerSignup
