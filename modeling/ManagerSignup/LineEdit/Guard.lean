import ManagerSignup.Field.Insertion
import ManagerSignup.LineEdit

/-!
# Guarded Edits

A line edit that lets nothing in that its field's grammar would refuse.

Text comes into an input by several ways: a typed character, a paste, the
commit of an input method, and whatever the platform does with a key. The guard
stands at each of them. What is inserted is decided before it reaches the line
edit, and it always goes to the end, wherever the cursor stands. A deletion is
decided by the text it would leave, so that text is worked out first. A key
whose effect cannot be foreseen is let through and taken back if it did harm.

Two things the guard takes on trust. It works a deletion out at the place that
the platform tells it, as if everything before were counted by characters. And
it does not look at what the platform does while a text is composed and nothing
is committed yet.

Whenever the guard says no it says so once, with the text that was proposed or
that would have been left, and what the input held stays as it was.

An input without a grammar goes through the same actions and simply does what it
is told.

## Main definitions

* `Effect`: What can be noticed while an edit is acted upon.
* `Reaction`: The edit afterwards, and what was noticed.
* `Field.deletionResult?`: The text a deleting key would leave.
* `Field.pressKey`, `Field.commit`, `Field.insertText`, `Field.pasteText`: The
  ways in.
* `Action`: Everything that can be done to an input.
* `LineEdit.act`: Doing it.
-/

namespace ManagerSignup

/-- What can be noticed while an edit is acted upon. -/
inductive Effect where
  /-- The text changed to this one. -/
  | changed (t : Text)
  /-- The guard refused this. -/
  | refused (t : Text)
  /-- The platform was asked to do its part. -/
  | platform
  /-- Whoever filled the input is done with it. -/
  | finished
  /-- Something was written down. -/
  | noted (entry : Entry)
  deriving DecidableEq, Repr

/-- The edit afterwards, and what was noticed on the way, in order. -/
structure Reaction where
  edit : LineEdit
  effects : List Effect

/-- An edit that announced its changes, as a reaction. -/
def Edited.reaction (e : Edited) : Reaction :=
  { edit := e.edit, effects := e.announced.map .changed }

namespace Field

/-- A text cannot be dropped into a guarded input: no key would tell of it. -/
def acceptsDrops : Bool := false

/-- The menu of a guarded input. There is none, since a menu changes the text
    without a key as well. -/
def contextMenu : String := "NoContextMenu"

/-- What the guard writes down when it takes a stand. -/
def vetoEntry (f : Field) : Entry :=
  { level := .debug, source := .guard, message := "Vetoed edit of " ++ f.key ++ " field" }

/-- Refusing something. -/
def veto (f : Field) (proposed : Text) : List Effect :=
  [.noted f.vetoEntry, .refused proposed]

/-- Doing what was decided about an insertion: the new value replaces the text,
    and a refused proposal leaves it alone. -/
def apply (f : Field) (e : LineEdit) (proposed : Text) : Except Rejection Text → Reaction
  | .ok value => (e.replaceAll value).reaction
  | .error r => { edit := e, effects := .noted r.entry :: f.veto proposed }

/-- Typing at the end, whatever text the key carries. -/
def insertText (f : Field) (e : LineEdit) (t : Text) : Reaction :=
  f.apply e t (f.typeText e.text t)

/-- Pasting at the end. -/
def pasteText (f : Field) (e : LineEdit) (t : Text) : Reaction :=
  f.apply e t (f.paste e.text t)

/-- The commit of an input method: its characters are typed one after the other,
    all of them or none. An empty commit is left to the platform, and what the
    platform leaves is not looked at. -/
def commit (f : Field) (e : LineEdit) (t : Text) (left : Option PlatformEdit := none) :
    Reaction :=
  if t.isEmpty then
    let done := e.platformComposes left
    { edit := done.edit, effects := .platform :: done.announced.map .changed }
  else
    match f.typeAll e.text t with
    | .ok value => (e.replaceAll value).reaction
    | .error r => { edit := e, effects := [.noted r.entry, .refused t] }

/-- The text that a deletion of the selection, or of one character, would leave.
    It is worked out from the text and the place that the platform tells; nothing is
    said about other keys, and about deletions that find nothing to delete. -/
def deletionResult? (e : LineEdit) (p : KeyPress) : Option Text :=
  if p.means .cut || p.isPlainDeletion then
    let place := e.toldPlace p.counting
    match e.selection with
    | some s => some (Text.without e.text place (s.stop - s.start))
    | none =>
        if p.means .cut then none
        else if p.key = .backspace then
          if 0 < place then some (Text.without e.text (place - 1) 1) else none
        else
          if place < e.text.length then some (Text.without e.text place 1) else none
  else none

/-- A key that types a character: it carries a single printable one and means no
    editing command, whatever modifiers are held down. -/
def typedChar? (p : KeyPress) : Option Char :=
  match p.text with
  | [c] => if Text.isPrintable c && p.shortcut.isNone then some c else none
  | _ => none

/-- Letting the platform have a key and taking back what it did if the text can
    no longer be typed. The cursor goes back to where it was. -/
def forward (f : Field) (e : LineEdit) (p : KeyPress) : Reaction :=
  let done := e.platformKey p
  let after := done.edit.text
  let noticed := .platform :: done.announced.map .changed
  if after = e.text then { edit := done.edit, effects := noticed }
  else
    match f.obstacle? after with
    | none => { edit := done.edit, effects := noticed }
    | some r =>
        let restored := done.edit.replaceAll e.text
        { edit := restored.edit.moveCursor e.cursor
          effects := noticed ++ .noted r.entry :: f.veto after ++
            restored.announced.map .changed }

/-- Letting the platform delete what leaves a text that can be typed, and
    refusing any other deletion. -/
def deleteChecked (f : Field) (e : LineEdit) (p : KeyPress) (remaining : Text) : Reaction :=
  match f.obstacle? remaining with
  | none =>
      let done := e.platformKey p
      { edit := done.edit, effects := .platform :: done.announced.map .changed }
  | some r => { edit := e, effects := .noted r.entry :: f.veto remaining }

/-- A key: a paste is decided first, then a deletion, then a typed character, and
    what is none of these is left to the platform. -/
def pressKey (f : Field) (e : LineEdit) (p : KeyPress) : Reaction :=
  if p.means .paste then f.pasteText e p.clipboard
  else
    match deletionResult? e p with
    | some remaining => f.deleteChecked e p remaining
    | none =>
        match typedChar? p with
        | some c => f.insertText e [c]
        | none => f.forward e p

end Field

/-- Everything that can be done to an input. With a commit comes what the platform
    would leave if it is empty. -/
inductive Action where
  | press (p : KeyPress)
  | commit (t : Text) (left : Option PlatformEdit := none)
  | insertText (t : Text)
  | typeEach (t : Text)
  | paste (t : Text)
  | setText (t : Text)
  | moveCursor (position : Int)
  | select (start length : Int)
  | finish
  deriving DecidableEq, Repr

/-- What an action answers, besides what it does. -/
inductive ActionAnswer where
  | nothing
  | applied (b : Bool)
  | each (bs : List Bool)
  deriving DecidableEq, Repr

/-- The guard refused nothing. -/
def Reaction.wasApplied (r : Reaction) : Bool :=
  r.effects.all fun e => match e with
    | .refused _ => false
    | _ => true

namespace Field

/-- Typing the characters of a text, each on its own. -/
def typeEach (f : Field) (e : LineEdit) : Text → Reaction × List Bool
  | [] => ({ edit := e, effects := [] }, [])
  | c :: rest =>
      let first := f.insertText e [c]
      let (more, answers) := f.typeEach first.edit rest
      ({ edit := more.edit, effects := first.effects ++ more.effects },
        first.wasApplied :: answers)

/-- Doing something to a guarded input. -/
def act (f : Field) (e : LineEdit) : Action → Reaction × ActionAnswer
  | .press p => (f.pressKey e p, .nothing)
  | .commit t left => (f.commit e t left, .nothing)
  | .insertText t =>
      let r := f.insertText e t
      (r, .applied r.wasApplied)
  | .typeEach t =>
      let (r, answers) := f.typeEach e t
      (r, .each answers)
  | .paste t =>
      let r := f.pasteText e t
      (r, .applied r.wasApplied)
  | .setText t => ((e.setText t).reaction, .nothing)
  | .moveCursor position => ({ edit := e.moveCursor position, effects := [] }, .nothing)
  | .select start length => ({ edit := e.select start length, effects := [] }, .nothing)
  | .finish => ({ edit := e, effects := [.finished] }, .nothing)

end Field

namespace LineEdit

/-- Doing something to an input without a grammar. It is filled by keys and by
    being told its text; the ways in that a guard provides do not exist. -/
def actPlain (e : LineEdit) : Action → Reaction × ActionAnswer
  | .press p => ((e.platformKey p).reaction, .nothing)
  | .setText t => ((e.setText t).reaction, .nothing)
  | .moveCursor position => ({ edit := e.moveCursor position, effects := [] }, .nothing)
  | .select start length => ({ edit := e.select start length, effects := [] }, .nothing)
  | .finish => ({ edit := e, effects := [.finished] }, .nothing)
  | _ => ({ edit := e, effects := [] }, .nothing)

/-- Doing something to an input. -/
def act (guard : Option Field) (e : LineEdit) (a : Action) : Reaction × ActionAnswer :=
  match guard with
  | some f => f.act e a
  | none => e.actPlain a

/-- The text that is selected. -/
def selectedText (e : LineEdit) (s : Selection) : Text :=
  (e.text.take s.stop).drop s.start

end LineEdit

end ManagerSignup
