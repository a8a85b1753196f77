import ManagerSignup.UnknownName
import ManagerSignup.Value.Shown

/-!
# Application Errors

An error the program knows about: what the user is told, what the journal
needs, and what may be done next.

The kind of an error says where it came from and fixes what is usual for it. A
check that fails is usually harmless, a server that fails usually answers the
second time, and anything unforeseen is serious. The usual severity and the
usual chance of a retry are only defaults, and an error made with others keeps
its own.

An error is shown to programmers in two ways. The general kind and the
validation kind are told by type, code and message; the other three write out
everything they hold. `details` is the form in which an error leaves the
program.

## Main definitions

* `ErrorCode`, `Severity`, `ErrorKind`: What errors are classified by.
* `AppError`: An error with everything known about it.
* `AppError.ofKind`: An error with what is usual for its kind.
* `AppError.details`: An error as a value.
* `AppError.shown`: An error as programmers see it.
* `AppError.same`: Equality of everything an error holds.
-/

namespace ManagerSignup

/-- What went wrong. -/
inductive ErrorCode where
  | invalidInput
  | invalidFormat
  | requiredFieldMissing
  | passwordMismatch
  | backendRejected
  | backendFailure
  | configInvalid
  | configParseError
  | osError
  | unknown
  deriving DecidableEq, Repr

namespace ErrorCode

/-- All codes. -/
def all : List ErrorCode :=
  [invalidInput, invalidFormat, requiredFieldMissing, passwordMismatch, backendRejected,
    backendFailure, configInvalid, configParseError, osError, unknown]

/-- The name of a code. -/
def name : ErrorCode → String
  | invalidInput => "INVALID_INPUT"
  | invalidFormat => "INVALID_FORMAT"
  | requiredFieldMissing => "REQUIRED_FIELD_MISSING"
  | passwordMismatch => "PASSWORD_MISMATCH"
  | backendRejected => "BACKEND_REJECTED"
  | backendFailure => "BACKEND_FAILURE"
  | configInvalid => "CONFIG_INVALID"
  | configParseError => "CONFIG_PARSE_ERROR"
  | osError => "OS_ERROR"
  | unknown => "UNKNOWN"

/-- The code with a given name. -/
def ofName (name : String) : Except UnknownName ErrorCode :=
  match all.find? fun c => c.name = name with
  | some c => .ok c
  | none => .error ⟨.errorCode, name⟩

end ErrorCode

/-- How much an error matters. -/
inductive Severity where
  | low
  | medium
  | high
  deriving DecidableEq, Repr

namespace Severity

/-- All severities. -/
def all : List Severity :=
  [low, medium, high]

/-- The name of a severity. -/
def name : Severity → String
  | low => "low"
  | medium => "medium"
  | high => "high"

/-- The name of a severity in capitals. -/
def label : Severity → String
  | low => "LOW"
  | medium => "MEDIUM"
  | high => "HIGH"

/-- The severity with a given name. -/
def ofName (name : String) : Except UnknownName Severity :=
  match all.find? fun s => s.name = name with
  | some s => .ok s
  | none => .error ⟨.severity, name⟩

end Severity

/-- Where an error came from. -/
inductive ErrorKind where
  | general
  | validation
  | submission
  | config
  | unexpected
  deriving DecidableEq, Repr

namespace ErrorKind

/-- All kinds. -/
def all : List ErrorKind :=
  [general, validation, submission, config, unexpected]

/-- What an error of the kind is called. -/
def name : ErrorKind → String
  | general => "BaseAppError"
  | validation => "ValidationError"
  | submission => "SubmissionError"
  | config => "ConfigError"
  | unexpected => "UnexpectedError"

/-- The part of the program an error of the kind belongs to. -/
def origin : ErrorKind → String
  | general => "system"
  | validation => "validation"
  | submission => "submission"
  | config => "config"
  | unexpected => "system"

/-- The kind with a given name. -/
def ofName? (name : String) : Option ErrorKind :=
  all.find? fun k => k.name = name

/-- The usual severity of an error of the kind. -/
def usualSeverity : ErrorKind → Severity
  | validation => .low
  | unexpected => .high
  | _ => .medium

/-- Whether trying again usually helps. -/
def usuallyRetriable : ErrorKind → Bool
  | submission => true
  | _ => false

end ErrorKind

/-- An error with everything known about it. -/
structure AppError where
  kind : ErrorKind
  code : ErrorCode
  userMessage : String
  technicalMessage : Option String
  severity : Severity
  retriable : Bool
  context : Members

namespace AppError

/-- An error with the severity and the chance of a retry that are usual for its
    kind. -/
def ofKind (kind : ErrorKind) (code : ErrorCode) (userMessage : String)
    (technicalMessage : Option String := none) (context : Members := []) : AppError :=
  { kind, code, userMessage, technicalMessage, context
    severity := kind.usualSeverity
    retriable := kind.usuallyRetriable }

/-- Naming the form field an error is about; an empty name names none. -/
def withField (e : AppError) (field : String) : AppError :=
  if field.isEmpty then e else { e with context := Table.put "field" (.text field) e.context }

/-- The form field an error is about. -/
def field? (e : AppError) : Option Value :=
  Table.find? "field" e.context

/-- A failed check of one field. -/
def ofCheck (code : ErrorCode) (userMessage field : String) (context : Members := []) : AppError :=
  (ofKind .validation code userMessage none context).withField field

/-- The error for a field that holds a value its grammar rejects. -/
def ofFieldValue (field message : String) (value : Option Value) : AppError :=
  (ofKind .validation .invalidFormat message
    (some ("Field '" ++ field ++ "' holds a value outside its grammar: " ++ message))
    (value.toList.map fun v => ("value", v))).withField field

/-- The technical message as a value. -/
def technicalValue (e : AppError) : Value :=
  match e.technicalMessage with
  | some s => .text s
  | none => .null

/-- The error as a value. -/
def details (e : AppError) : Value :=
  .object
    [("type", .text e.kind.origin),
     ("code", .text e.code.name),
     ("user_message", .text e.userMessage),
     ("technical_message", e.technicalValue),
     ("severity", .text e.severity.name),
     ("retriable", .bool e.retriable),
     ("context", .object e.context)]

/-- Type, code and message. -/
def brief (e : AppError) : String :=
  e.kind.name ++ "(type=" ++ e.kind.origin ++ ", code=" ++ e.code.name ++ ", message='" ++
    e.userMessage ++ "')"

/-- Everything the error holds. -/
def full (e : AppError) : String :=
  e.kind.name ++
    "(code=<ErrorCode." ++ e.code.name ++ ": '" ++ e.code.name ++ "'>" ++
    ", user_message=" ++ Text.quoteString e.userMessage ++
    ", technical_message=" ++ Text.toString e.technicalValue.literal ++
    ", severity=<ErrorSeverity." ++ e.severity.label ++ ": '" ++ e.severity.name ++ "'>" ++
    ", retriable=" ++ Text.toString (Value.bool e.retriable).literal ++
    ", context=" ++ Text.toString (Value.object e.context).literal ++ ")"

/-- The error as programmers see it. -/
def shown (e : AppError) : String :=
  match e.kind with
  | .general => e.brief
  | .validation => e.brief
  | _ => e.full

/-- Equality of everything the errors hold; in the context the order does not
    count. -/
def same (a b : AppError) : Bool :=
  a.kind = b.kind && a.code = b.code && a.userMessage = b.userMessage &&
    a.technicalMessage = b.technicalMessage && a.severity = b.severity &&
    a.retriable = b.retriable && (Value.object a.context).same (.object b.context)

end AppError

/-- An application error as it is asked for from outside, by names. What is not
    given is as usual for the kind. -/
structure AppErrorDraft where
  kind : ErrorKind
  code : String
  userMessage : String
  technicalMessage : Option String
  severity : Option String
  retriable : Option Bool
  field : Option String
  context : Members

/-- The error a draft asks for, unless it uses a name that does not exist. Only
    a failed check can be about a field. -/
def AppErrorDraft.build (d : AppErrorDraft) : Except UnknownName AppError := do
  let code ← ErrorCode.ofName d.code
  let severity ← match d.severity with
    | some name => Severity.ofName name
    | none => .ok d.kind.usualSeverity
  let e : AppError :=
    { kind := d.kind
      code
      userMessage := d.userMessage
      technicalMessage := d.technicalMessage
      severity
      retriable := d.retriable.getD d.kind.usuallyRetriable
      context := d.context }
  return match d.kind, d.field with
    | .validation, some field => e.withField field
    | _, _ => e

end ManagerSignup
