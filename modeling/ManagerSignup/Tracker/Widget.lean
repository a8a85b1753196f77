import ManagerSignup.LineEdit.Guard

/-!
# Widgets

A line edit as it stands in a form: with a guard or without, marked as wrong or
not, and with those that wait for something to happen to it.

A widget does not know what it is for. It keeps a list of listeners for its
changes and one for when its user is done with it, and each registration adds to
both. Nobody ever leaves these lists, so a field that is forgotten is still told
of changes, and it is up to the listening side to find nothing to do.

The tool tip says what is wrong while something is. What it says otherwise is
kept beside it, and it is whatever it said when the widget was last registered.

## Main definitions

* `Listener`: What is to be done when a widget changes.
* `Widget`: A line edit as it stands in a form.
* `Widget.mark`: Marking a widget by a verdict.
-/

namespace ManagerSignup

/-- What is to be done when a widget changes. -/
inductive Listener (κ : Type) where
  /-- Judging a field once no change has come for a while. -/
  | recheckSoon (key : κ)
  /-- Judging a field at once. -/
  | recheckNow (key : κ)
  deriving DecidableEq, Repr

/-- A line edit as it stands in a form. -/
structure Widget (κ : Type) where
  guard : Option Field
  edit : LineEdit
  /-- The widget is marked as wrong, or is marked not to be; before its first
      verdict it is neither. -/
  flagged : Option Bool
  toolTip : String
  /-- What the tool tip says when nothing is wrong. -/
  restingTip : String
  onChange : List (Listener κ)
  onFinish : List κ

namespace Widget

variable {κ : Type}

/-- An empty widget that nobody listens to. -/
def new (guard : Option Field) (toolTip : String) : Widget κ :=
  { guard
    edit := .empty
    flagged := none
    toolTip
    restingTip := ""
    onChange := []
    onFinish := [] }

/-- The text in a widget. -/
def text (w : Widget κ) : Text :=
  w.edit.text

/-- Joining a field with a widget: changes and the end of editing will lead to
    its being judged, and what the tool tip says now is what it says at rest. -/
def join (w : Widget κ) (key : κ) : Widget κ :=
  { w with
    restingTip := w.toolTip
    onChange := w.onChange ++ [.recheckSoon key]
    onFinish := w.onFinish ++ [key] }

/-- Marking a widget by a verdict. -/
def mark (w : Widget κ) (valid : Bool) (message : String) : Widget κ :=
  { w with
    flagged := some !valid
    toolTip := if valid then w.restingTip else "Error: " ++ message }

end Widget

end ManagerSignup
