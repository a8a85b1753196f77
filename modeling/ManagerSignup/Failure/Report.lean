import ManagerSignup.Failure
import ManagerSignup.Failure.Redaction

/-!
# Error Reports

What becomes of a failure once somebody has to be told about it.

Capturing a failure gives the application error it amounts to, with the details
of the moment merged in. The merge only ever adds: a detail that the error
already has is not overwritten, so an error that is captured on its way through
several hands keeps what the first of them knew. Handling is capturing,
announcing and writing one line into the journal.

What the user is told ends with an invitation to try again if that may help and
the message does not say so itself.

## Main definitions

* `AppError.absorb`: An error with further details merged in.
* `capture`: The error a failure amounts to, with details.
* `Report`: An error that was announced, with what was written down.
* `handle`: Capturing and announcing.
* `AppError.messageForUser`: What the user is told.
-/

namespace ManagerSignup

namespace AppError

/-- A context with details merged in; those it already has stay. -/
def mergeDetails (context details : Members) : Members :=
  details.foldl (fun context (name, value) => Table.putNew name value context) context

/-- The error with details merged in; those it already has stay. -/
def absorb (e : AppError) (details : Members) : AppError :=
  { e with context := mergeDetails e.context details }

/-- The error with a technical message, unless it has one. -/
def fillTechnical (e : AppError) (technical : String) : AppError :=
  match e.technicalMessage with
  | some s => if s.isEmpty then { e with technicalMessage := some technical } else e
  | none => { e with technicalMessage := some technical }

/-- The words that invite to another attempt. -/
def retryWords : Text :=
  ['t', 'r', 'y', ' ', 'a', 'g', 'a', 'i', 'n']

/-- The message invites to another attempt, in whatever case. -/
def invitesRetry (message : String) : Bool :=
  Text.occursIn retryWords (Text.lower (Text.ofString message))

/-- What the user is told. -/
def messageForUser (e : AppError) : String :=
  if e.retriable && !invitesRetry e.userMessage then
    e.userMessage ++ " You can try again."
  else
    e.userMessage

/-- The line an announced error leaves in the journal. -/
def reportEntry (e : AppError) (raised : Bool) : Entry :=
  { level := .error
    source := .reports
    message := "[" ++ e.kind.origin ++ "] " ++ e.userMessage ++ " (" ++
      e.technicalMessage.getD "None" ++ ")"
    report := some ⟨e.code.name, raised⟩ }

end AppError

/-- The error a failure amounts to, with the details of the moment. -/
def capture (x : Failure) (details : Members) : AppError :=
  (x.normalize.absorb (redact details)).fillTechnical x.technical

/-- An error that was announced, with the lines it left in the journal. -/
structure Report where
  error : AppError
  log : List Entry

/-- Capturing a failure, announcing the error, and writing it down; `raised`
    says whether the failure had been raised. -/
def handle (x : Failure) (raised : Bool) (details : Members) : Report :=
  let e := capture x details
  { error := e, log := x.normalizeLog ++ [e.reportEntry raised] }

end ManagerSignup
