import ManagerSignup.Failure
import ManagerSignup.Submission.Record

/-!
# Backend

The server that registers managers, as the form sees it.

A backend answers every record it is handed: with a message, or by failing. Its
answer may depend on the record and on how many it was handed before, which is
all the form ever learns about it. `Backend.dryRun` is the one that sends nothing
anywhere and only writes down what it would have sent.

A server that refuses a record says why in a form of its own making. A text is
the reason, an object may carry one, and anything else says nothing, so the user
is told so and may try again. A refusal with a reason is final.

## Main definitions

* `Answer`: What a backend does with a record.
* `Backend`: A server that registers managers.
* `reasonIn`: The reason in a refusal.
* `rejection`: The error a refusal amounts to.
* `Backend.dryRun`: The backend that sends nothing.
* `Backend.ofAnswers`: A backend whose answers are settled in advance.
-/

namespace ManagerSignup

/-- What a backend does with a record. -/
inductive Answer where
  | reply (message : String) (log : List Entry)
  | fail (x : Failure)

/-- A server that registers managers: its answer to a record, given the number
    of records it was handed before. -/
structure Backend where
  answer : Nat → Record → Answer

/-- What the user is told if a refusal says nothing. -/
def unknownReason : String := "Unknown error. Please try again."

/-- The member of a refusal that carries the reason. -/
def reasonMember : String := "mensaje"

/-- The reason in a refusal. -/
def reasonIn (payload : Value) : String :=
  match payload with
  | .text s => s
  | .object members =>
      match Table.find? reasonMember members with
      | some x => if x.isEmpty then unknownReason else Text.toString x.plain
      | none => unknownReason
  | _ => unknownReason

/-- The error a refusal amounts to; a refusal without a reason may be tried
    again. -/
def rejection (payload : Value) (status : Option Value) : AppError :=
  let reason := reasonIn payload
  { kind := .submission
    code := if reason = unknownReason then .backendFailure else .backendRejected
    userMessage := reason
    technicalMessage := some ("Backend rejected registration: " ++ Text.toString payload.literal)
    severity := ErrorKind.submission.usualSeverity
    retriable := reason = unknownReason
    context := status.toList.map fun s => ("status", s) }

namespace Backend

/-- What the backend that sends nothing does with a record. -/
def dryAnswer (r : Record) : Answer :=
  .reply ("Manager " ++ Text.toString r.username ++ " registered.")
    [{ level := .info, source := .submission,
       message := "Dry run: registration for '" ++ Text.toString r.username ++ "' not sent" }]

/-- The backend that sends nothing. It keeps no list of the records that it was handed:
    that list is read off the outcomes of the submissions, or off what a form wrote down
    (`received`, `Form.received`). -/
def dryRun : Backend :=
  { answer := fun _ r => dryAnswer r }

/-- A backend that answers in turn and stays with its last answer; without any
    it sends nothing. -/
def ofAnswers (answers : List (Record → Answer)) : Backend :=
  { answer := fun n r =>
      match answers[n]? with
      | some answer => answer r
      | none => (answers.getLast?.getD dryAnswer) r }

end Backend

end ManagerSignup
