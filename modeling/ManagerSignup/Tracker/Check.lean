import ManagerSignup.Failure.Report
import ManagerSignup.Field.Insertion
import ManagerSignup.History
import ManagerSignup.Text.Blank

/-!
# Checks

When a field is complete, and what is said if it is not.

A blank field is judged before its check is asked: it is wrong if an entry is
required and fine otherwise. Any other text is up to the check. A grammar knows
three answers. A text it accepts is fine, one that can still be completed is
incomplete, and one that no typing could have produced must have been put there
behind the guard's back. The last of these is reported as an error, since it
tells of a fault in the program and not of one in what the user did.

A rule answers with a verdict of its own. It may look at the other inputs, and it
is told how many verdicts were reached before, so that it need not answer the
same text in the same way twice.

## Main definitions

* `Verdict`: Whether a field is fine, and what is said about it.
* `Surroundings`: What a rule may look at besides the text.
* `Check`: A grammar or a rule.
* `Check.verdict`: The verdict on a text.
* `Check.consequences`: What else comes of judging a text.
-/

namespace ManagerSignup

/-- Keys that have a name in messages. -/
class Named (κ : Type) where
  name : κ → String

instance : Named String where
  name := id

/-- Whether a field is fine, and what is said about it. -/
structure Verdict where
  valid : Bool
  message : String
  deriving DecidableEq, Repr

/-- Nothing is wrong, and nothing is said. -/
def Verdict.fine : Verdict :=
  { valid := true, message := "" }

/-- Something is wrong. -/
def Verdict.fault (message : String) : Verdict :=
  { valid := false, message := message }

/-- What is said about a blank field that is required. -/
def requiredMessage : String := "This field is required"

/-- What is said about a text that can still be completed. -/
def incompleteMessage : String := "Input is incomplete"

/-- What a rule may look at besides the text: the texts of all inputs, and how
    many verdicts were reached before. -/
structure Surroundings (ω : Type) where
  texts : ω → Text
  judged : Nat

/-- What decides whether a text is fine. -/
inductive Check (ω : Type) where
  | grammar (f : Field)
  | rule (answer : Surroundings ω → Text → Verdict)

/-- The verdict of a grammar. -/
def Field.verdict (f : Field) (value : Text) : Verdict :=
  match f.judge value with
  | .acceptable => .fine
  | .intermediate => .fault incompleteMessage
  | .invalid => .fault f.hint

namespace Check

variable {κ ω : Type}

/-- The verdict on a blank text. -/
def blankVerdict (required : Bool) : Verdict :=
  if required then .fault requiredMessage else .fine

/-- The verdict on a text. -/
def verdict (c : Check ω) (required : Bool) (s : Surroundings ω) (value : Text) : Verdict :=
  if Text.allBlank value then blankVerdict required
  else
    match c with
    | .grammar f => f.verdict value
    | .rule answer => answer s value

/-- The report about a field that holds what its grammar rejects. -/
def intrusion (name : String) (f : Field) (value : Text) : Report :=
  handle (.app (.ofFieldValue name f.hint (some (.text (Text.toString value))))) false []

/-- What else comes of judging a text: a grammar writes down what it refuses, and
    reports a text that nobody can have typed. -/
def consequences [Named κ] (c : Check ω) (key : κ) (value : Text) : List (Event κ ω) :=
  if Text.allBlank value then []
  else
    match c with
    | .rule _ => []
    | .grammar f =>
        (f.judgeLog value).map .noted ++
          match f.judge value with
          | .invalid =>
              let report := intrusion (Named.name key) f value
              report.log.map .noted ++ [.reported report.error]
          | _ => []

end Check

end ManagerSignup
