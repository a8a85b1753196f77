import ManagerSignup.Form.Style
import ManagerSignup.Settings.Organization
import ManagerSignup.Tracker

/-!
# The Registration Form

The form in which the manager of an organization registers.

Eight inputs are tracked, five of them guarded. A grammar checks each guarded
input. The password and the type of document only have to be there, and the
confirmation has to agree with the password, which makes it the one input whose
verdict hangs on a text that is not its own. That is why a change of the password
judges the confirmation at once.

The button follows the overall verdict. While a submission is under way it is
switched off by hand, behind the tracker's back, and every way out of a
submission sets it right again. A failure sets it to the conjunction that
judging all fields gives. A success clears the form first, and the announcement
that the fields are no longer valid finds the button where it belongs.

The tracker's clock serves the form as well. The pause after a registration is
one more timer on the agenda, and registering again before it is over starts it
anew.

## Main definitions

* `Form`: The form.
* `Form.forOrganization`: The form for an organization.
* `Form.ofSettings`: The form for the organization that was chosen in the settings.
* `Form.entries`: What was entered.
* `Form.submit`: Submitting what was entered.
* `Form.clear`: Emptying the inputs.
* `Form.Step`, `Form.step`, `Form.run`: Everything that can be done.
-/

namespace ManagerSignup

instance : Named Input where
  name := Input.key

/-- How the message line looks. -/
inductive Tone where
  | plain
  | success
  | error
  deriving DecidableEq, Repr

/-- The name of a tone. -/
def Tone.name : Tone → String
  | plain => "default"
  | success => "success"
  | error => "error"

/-- The form in which the manager of an organization registers. -/
structure Form where
  organization : String
  backend : Backend
  tracker : Tracker Input Input
  message : String
  /-- How the message line looks; it has no look of its own before the first
      submission. -/
  tone : Option Tone

namespace Form

/-- What the window says. -/
def title : String := "Register manager"

/-- What the button says. -/
def buttonLabel : String := "Register"

/-- What is said if the confirmation is not the password. -/
def mismatchMessage : String := "Passwords do not match"

/-- How long the form waits after a registration. -/
def pauseLength : Nat := 1500

/-- What was entered, read off the texts of the inputs. -/
def entriesOf (texts : Input → Text) : Entries :=
  { text? := fun i => some (texts i) }

/-- The confirmation agrees with the password. -/
def confirmationVerdict (s : Surroundings Input) (_ : Text) : Verdict :=
  if (entriesOf s.texts).passwordsMatch then .fine else .fault mismatchMessage

/-- What decides whether an input is complete. -/
def check : Input → Check Input
  | .guarded f => .grammar f
  | .password => .rule fun _ _ => .fine
  | .confirmation => .rule confirmationVerdict
  | .documentType => .rule fun _ _ => .fine

/-- Beginning to track an input. -/
def registerInput (t : Tracker Input Input) (i : Input) : Tracker Input Input :=
  t.register i i (check i) true

/-- The inputs of an empty form, all of them tracked; whatever changes the
    password judges its confirmation. The button is connected last, when it
    still cannot be pressed. -/
def trackInputs (t : Tracker Input Input) : Tracker Input Input :=
  let tracked := (Input.all.foldl registerInput t).update .password fun w =>
    { w with onChange := w.onChange ++ [.recheckNow .confirmation] }
  let judged := { tracked with button := some false }.recheckAll
  judged.setButton judged.allValid

/-- The inputs before they are tracked. -/
def blankInputs : Tracker Input Input :=
  .new Tracker.usualDelay Input.guard? fun _ => ""

/-- The form around its inputs. -/
def around (inputs : Tracker Input Input) (organization : String) (backend : Backend) : Form :=
  { organization
    backend
    tracker := trackInputs inputs
    message := ""
    tone := none }

/-- The form for an organization. -/
def forOrganization (organization : String) (backend : Backend) : Form :=
  around blankInputs organization backend

/-- Entering a report into the history. -/
def recordReport (t : Tracker Input Input) (r : Report) : Tracker Input Input :=
  (t.recordAll (r.log.map .noted)).record (.reported r.error)

/-- The report about settings that name no organization. -/
def settingsReport (e : AppError) : Report :=
  handle (.app e) true [("source", .text "organization settings")]

/-- The form for the organization that was chosen in the settings. Settings that
    make no sense are reported, and the form then has no organization. A failure
    of any other kind leaves no form. -/
def ofSettings (stored : Option Value) (backend : Backend) : Except LoadFailure Form :=
  match loadOrganization stored with
  | .ok loaded =>
      .ok (around (blankInputs.recordAll (loaded.log.map .noted)) (Text.toString loaded.name)
        backend)
  | .error (.config e) => .ok (around (recordReport blankInputs (settingsReport e)) "" backend)
  | .error failure => .error failure

/-- What was entered. -/
def entries (form : Form) : Entries :=
  entriesOf form.tracker.text

/-- The button can be pressed. -/
def enabled (form : Form) : Bool :=
  form.tracker.button.getD false

/-- The style sheet of the message line. -/
def style (form : Form) : String :=
  match form.tone with
  | some tone => messageSheet tone.name
  | none => ""

/-- The records that the backend was handed, in order. -/
def received (form : Form) : List Record :=
  form.tracker.history.filterMap fun s => match s.event with
    | .handedOver record _ => some record
    | _ => none

/-- The user was asked to go on to whatever comes after a registration. -/
def movedOn (form : Form) : Bool :=
  form.tracker.history.any fun s => match s.event with
    | .rang .pause => true
    | _ => false

/-- Doing something with the inputs. -/
def withTracker (form : Form) (change : Tracker Input Input → Tracker Input Input) : Form :=
  { form with tracker := change form.tracker }

/-- Showing a message. -/
def say (form : Form) (message : String) (tone : Tone) : Form :=
  { form with message, tone := some tone }

/-- Emptying the inputs, one after the other, and judging all of them. -/
def clear (form : Form) : Form :=
  form.withTracker fun t =>
    (Input.all.foldl (fun t i => (t.act i (.setText [])).1) t).recheckAll

/-- The report about a failed submission. Failures are raised and caught on their
    way here. -/
def failureReport (x : Failure) : Report :=
  handle x true [("form", .text "registration")]

/-- A submission failed: the failure is reported and shown, and the fields are
    judged to set the button. -/
def fail (form : Form) (x : Failure) : Form :=
  let report := failureReport x
  ({ form with tracker := recordReport form.tracker report }.say
      report.error.messageForUser .error).withTracker fun t =>
    let judged := t.recheckAll
    judged.setButton judged.allValid

/-- What is written down about a registration. -/
def acceptedEntry : Entry :=
  { level := .info, source := .form, message := "Registration accepted by backend" }

/-- A submission succeeded: the reply is shown, the form is emptied, and the
    pause begins. -/
def succeed (form : Form) (reply : String) : Form :=
  let cleared := (({ form with tracker := form.tracker.record (.noted acceptedEntry) }.say
    reply .success).clear)
  cleared.withTracker fun t =>
    { t.record (.accepted reply) with
      agenda := t.agenda.start .pause (t.clock + pauseLength) }

/-- What the inputs, as they stand, would have handed over and brought back. -/
def outcome (form : Form) : Outcome :=
  ManagerSignup.submit form.entries form.organization form.backend form.received.length

/-- Entering into the history what became of a submission. -/
def recordOutcome (t : Tracker Input Input) (o : Outcome) : Tracker Input Input :=
  t.recordAll (o.log.map .noted ++ o.sent.toList.map fun record => .handedOver record o.result)

/-- Submitting what was entered, whether or not the button can be pressed. -/
def submit (form : Form) : Form :=
  let outcome := form.outcome
  let started := (form.say "" .plain).withTracker fun t =>
    recordOutcome (t.setButton false) outcome
  match outcome.result with
  | .ok reply => started.succeed reply
  | .error x => started.fail x

/-- Pressing the button. -/
def click (form : Form) : Form :=
  if form.enabled then form.submit else form

/-- Setting the texts of inputs, one after the other. -/
def fill (form : Form) (texts : List (Input × Text)) : Form :=
  form.withTracker fun t => texts.foldl (fun t entry => (t.act entry.1 (.setText entry.2)).1) t

/-- Everything that can be done with the form. -/
inductive Step where
  | act (i : Input) (a : Action)
  | fill (texts : List (Input × Text))
  | click
  | submit
  | clear
  | advance (ms : Nat)

/-- Doing it, with its answer. -/
def step (form : Form) : Step → Form × ActionAnswer
  | .act i a =>
      let (after, answer) := form.tracker.act i a
      ({ form with tracker := after }, answer)
  | .fill texts => (form.fill texts, .nothing)
  | .click => (form.click, .nothing)
  | .submit => (form.submit, .nothing)
  | .clear => (form.clear, .nothing)
  | .advance ms => (form.withTracker fun t => t.advance ms, .nothing)

/-- Doing several things, one after the other. -/
def run (form : Form) (steps : List Step) : Form :=
  steps.foldl (fun form s => (form.step s).1) form

end Form

end ManagerSignup
