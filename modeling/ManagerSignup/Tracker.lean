import ManagerSignup.Agenda
import ManagerSignup.Table
import ManagerSignup.Tracker.Check
import ManagerSignup.Tracker.Widget

/-!
# Completeness Tracking

Keeping track of which fields of a form are complete while it is filled in.

A guard keeps what is typed on the way to something complete, but it cannot tell
when the user has arrived, and a user who is still typing does not want to be
told what is missing. So a field is judged only once its input has not changed
for a while. Each change starts the timer of the field anew, and when the timer
rings the field is judged. It is judged at once when its user is done with the
input, and whenever somebody asks.

A judgement has two halves that change at different times. Whether a field is
valid is always taken over. Its message is compared with the one it had, and only
a different one marks the input and is announced. A check that says the same
about valid and invalid texts is therefore announced once, and its input stays
marked as it was.

After each judgement the fields are looked at together, and their conjunction is
announced when it is not what was announced last. A button may be connected to
these announcements. It then follows them, but it may also be set by hand.

Judging neither starts nor stops a timer. That is why `advance` can take the
shots that are due as they stand when it begins.

## Main definitions

* `Tracked`: A registered field with its last verdict.
* `Tracker`: The fields of a form with their inputs.
* `Tracker.validate`: Judging a field if its text is not the one judged last.
* `Tracker.recheck`, `Tracker.recheckAll`: Judging at once.
* `Tracker.register`: Beginning to track a field.
* `Tracker.act`: Doing something to a widget.
* `Tracker.advance`: Letting time pass.
* `Tracker.cleanup`: Forgetting all fields.
* `Tracker.Step`, `Tracker.step`, `Tracker.run`: Everything that can be done.
-/

namespace ManagerSignup

/-- A registered field with its last verdict. -/
structure Tracked (ω : Type) where
  widget : ω
  check : Check ω
  required : Bool
  /-- The number of the registration, which tells its timer from older ones. -/
  registration : Nat
  /-- The text that was judged last. -/
  lastValue : Option Text
  valid : Bool
  message : String

/-- The fields of a form with their inputs. -/
structure Tracker (κ ω : Type) where
  /-- How long after a change a field is judged. -/
  delay : Nat
  clock : Nat
  agenda : Agenda (Timer κ)
  widgets : ω → Widget κ
  fields : Table κ (Tracked ω)
  /-- The number of registrations so far. -/
  registrations : Nat
  /-- The number of verdicts so far. -/
  judged : Nat
  /-- What was last announced about the fields as a whole. -/
  overall : Option Bool
  /-- Whether the connected button can be pressed, if one is connected. -/
  button : Option Bool
  history : History κ ω

namespace Tracker

/-- How long after a change a field is judged, unless told otherwise. -/
def usualDelay : Nat := 200

variable {κ ω : Type}

/-- A tracker of no fields, with empty widgets. -/
def new (delay : Nat) (guards : ω → Option Field) (toolTips : ω → String) : Tracker κ ω :=
  { delay
    clock := 0
    agenda := .empty
    widgets := fun w => .new (guards w) (toolTips w)
    fields := []
    registrations := 0
    judged := 0
    overall := none
    button := none
    history := [] }

/-- The text in a widget. -/
def text (t : Tracker κ ω) (w : ω) : Text :=
  (t.widgets w).text

/-- What a rule may look at. -/
def surroundings (t : Tracker κ ω) : Surroundings ω :=
  { texts := t.text, judged := t.judged }

/-- Every field was judged valid. -/
def allValid (t : Tracker κ ω) : Bool :=
  t.fields.all fun entry => entry.2.valid

/-- Entering an event into the history. -/
def record (t : Tracker κ ω) (e : Event κ ω) : Tracker κ ω :=
  { t with history := t.history ++ [⟨t.clock, e⟩] }

/-- Entering several events. -/
def recordAll (t : Tracker κ ω) (es : List (Event κ ω)) : Tracker κ ω :=
  { t with history := t.history ++ es.map fun e => ⟨t.clock, e⟩ }

/-- Setting the connected button by hand. -/
def setButton (t : Tracker κ ω) (b : Bool) : Tracker κ ω :=
  { t with button := t.button.map fun _ => b }

/-- Announcing the conjunction of all fields if it is not what was announced
    last. -/
def announce (t : Tracker κ ω) : Tracker κ ω :=
  if t.overall = some t.allValid then t
  else
    ({ t with overall := some t.allValid }.setButton t.allValid).record (.overall t.allValid)

/-- The timer of a field. -/
def timer (key : κ) (field : Tracked ω) : Timer κ :=
  .recheck key field.registration

variable [DecidableEq κ] [DecidableEq ω]

/-- The field with a key. -/
def field? (t : Tracker κ ω) (key : κ) : Option (Tracked ω) :=
  Table.find? key t.fields

/-- A field that is not tracked counts as valid. -/
def isValid (t : Tracker κ ω) (key : κ) : Bool :=
  match t.field? key with
  | some field => field.valid
  | none => true

/-- What was last said about a field. -/
def message (t : Tracker κ ω) (key : κ) : String :=
  match t.field? key with
  | some field => field.message
  | none => ""

/-- The timer of the field runs. -/
def isPending (t : Tracker κ ω) (key : κ) : Bool :=
  match t.field? key with
  | some field => t.agenda.isPending (timer key field)
  | none => false

/-- Changing a widget. -/
def update (t : Tracker κ ω) (w : ω) (change : Widget κ → Widget κ) : Tracker κ ω :=
  { t with widgets := fun v => if v = w then change (t.widgets v) else t.widgets v }

/-- Putting a field in the place of the one with its key, or behind all
    others. -/
def putField (t : Tracker κ ω) (key : κ) (field : Tracked ω) : Tracker κ ω :=
  { t with fields := Table.put key field t.fields }

/-- Marking the widget of a field by a new message, and announcing it. -/
def showVerdict (t : Tracker κ ω) (key : κ) (w : ω) (v : Verdict) : Tracker κ ω :=
  (t.update w fun widget => widget.mark v.valid v.message).record
    (.judged key v.valid v.message)

/-- Taking over a verdict on a text of a field. -/
def settle (t : Tracker κ ω) (key : κ) (field : Tracked ω) (value : Text) (v : Verdict) :
    Tracker κ ω :=
  let t := t.putField key
    { field with lastValue := some value, valid := v.valid, message := v.message }
  (if v.message = field.message then t else t.showVerdict key field.widget v).announce

/-- Judging a text of a field. -/
def judge [Named κ] (t : Tracker κ ω) (key : κ) (field : Tracked ω) (value : Text) :
    Tracker κ ω :=
  let verdict := field.check.verdict field.required t.surroundings value
  let told := t.recordAll (field.check.consequences key value)
  { told with judged := told.judged + 1 }.settle key field value verdict

variable [Named κ]

/-- Judging a field if its text is not the one judged last. -/
def validate (t : Tracker κ ω) (key : κ) : Tracker κ ω :=
  match t.field? key with
  | none => t
  | some field =>
      if field.lastValue = some (t.text field.widget) then t
      else t.judge key field (t.text field.widget)

/-- Judging a field at once, whether or not its text was judged before; its
    timer is stopped. -/
def recheck (t : Tracker κ ω) (key : κ) : Tracker κ ω :=
  match t.field? key with
  | none => t
  | some field =>
      ({ t with agenda := t.agenda.stop (timer key field) }.putField key
        { field with lastValue := none }).record (.rechecked key) |>.validate key

/-- Judging every field at once. -/
def recheckAll (t : Tracker κ ω) : Tracker κ ω :=
  t.fields.keys.foldl recheck t

/-- Starting the timer of a field anew. -/
def schedule (t : Tracker κ ω) (key : κ) : Tracker κ ω :=
  match t.field? key with
  | none => t
  | some field => { t with agenda := t.agenda.start (timer key field) (t.clock + t.delay) }

/-- Beginning to track a field. A key that is tracked already keeps its place
    among the fields, but is a new field in every other respect; an optional one
    starts out valid. The field is judged at once. -/
def register (t : Tracker κ ω) (key : κ) (w : ω) (check : Check ω) (required : Bool) :
    Tracker κ ω :=
  let joined := { t with registrations := t.registrations + 1 }.putField key
    { widget := w
      check
      required
      registration := t.registrations
      lastValue := none
      valid := !required
      message := "" }
  ((joined.update w fun widget => widget.join key).record (.registered key)).validate key

/-- Telling a listener that its widget changed. -/
def tell (t : Tracker κ ω) : Listener κ → Tracker κ ω
  | .recheckSoon key => t.schedule key
  | .recheckNow key => t.recheck key

/-- Passing on what was noticed about a widget. -/
def notice (t : Tracker κ ω) (w : ω) : Effect → Tracker κ ω
  | .changed value => (t.widgets w).onChange.foldl tell (t.record (.changed w value))
  | .finished => (t.widgets w).onFinish.foldl recheck t
  | .noted entry => t.record (.noted entry)
  | .refused _ => t
  | .platform => t

/-- Doing something to a widget. -/
def act (t : Tracker κ ω) (w : ω) (a : Action) : Tracker κ ω × ActionAnswer :=
  let widget := t.widgets w
  let (reaction, answer) := widget.edit.act widget.guard a
  let edited := t.update w fun widget => { widget with edit := reaction.edit }
  (reaction.effects.foldl (fun t effect => t.notice w effect) edited, answer)

/-- A timer rings. -/
def ring (t : Tracker κ ω) (timer : Timer κ) : Tracker κ ω :=
  let rung := t.record (.rang timer)
  match timer with
  | .recheck key _ => rung.validate key
  | .pause => rung

/-- A shot is taken off the agenda, and it is the time at which it was due. -/
def fire (t : Tracker κ ω) (s : Shot (Timer κ)) : Tracker κ ω :=
  { t with clock := s.due, agenda := t.agenda.stop s.timer }.ring s.timer

/-- Letting time pass, in milliseconds. -/
def advance (t : Tracker κ ω) (ms : Nat) : Tracker κ ω :=
  { (t.agenda.dueBy (t.clock + ms)).foldl fire t with clock := t.clock + ms }

/-- Forgetting all fields and stopping their timers. Timers of fields that were
    replaced before go on. -/
def cleanup (t : Tracker κ ω) : Tracker κ ω :=
  { t with
    agenda := t.fields.foldl (fun agenda entry => agenda.stop (timer entry.1 entry.2)) t.agenda
    fields := [] }

/-- Changing the tool tip of a widget. -/
def setToolTip (t : Tracker κ ω) (w : ω) (tip : String) : Tracker κ ω :=
  t.update w fun widget => { widget with toolTip := tip }

/-- Everything that can be done with a tracker. -/
inductive Step (κ ω : Type) where
  | register (key : κ) (w : ω) (check : Check ω) (required : Bool)
  | act (w : ω) (a : Action)
  | recheck (key : κ)
  | recheckAll
  | advance (ms : Nat)
  | cleanup
  | setToolTip (w : ω) (tip : String)

/-- Doing it, with its answer. -/
def step (t : Tracker κ ω) : Step κ ω → Tracker κ ω × ActionAnswer
  | .register key w check required => (t.register key w check required, .nothing)
  | .act w a => t.act w a
  | .recheck key =>
      let after := t.recheck key
      (after, .applied (after.isValid key))
  | .recheckAll =>
      let after := t.recheckAll
      (after, .applied after.allValid)
  | .advance ms => (t.advance ms, .nothing)
  | .cleanup => (t.cleanup, .nothing)
  | .setToolTip w tip => (t.setToolTip w tip, .nothing)

/-- Doing several things, one after the other. -/
def run (t : Tracker κ ω) (steps : List (Step κ ω)) : Tracker κ ω :=
  steps.foldl (fun t s => (t.step s).1) t

end Tracker

end ManagerSignup
