import ManagerSignup.Text

/-!
# Line Edits

An input of one line: its text, where the cursor stands, and what is selected.

A line edit knows nothing of grammars. It does what its programmer or the
platform tells it and says when its text changed. The two are told together, as
an `Edited`: the edit afterwards, and the texts that were announced, in order.
When a change is announced is a matter of habit and not of sense: setting a text
announces only a different text, while inserting announces whenever something
was inserted or replaced, even if the text ends up the same.

The cursor never stands beyond the end, and a selection is never empty and never
reaches beyond the end. Both are part of what a line edit is, so every state is
one that an input can be in.

Cursor and selection are kept as places between characters. A platform may count
otherwise when it is asked where they are: by units of sixteen bits, of which the
characters beyond the first 65536 have two. `Counting` is how it counts, and
`toldPlace` what it says. The two only differ behind such a character. That a
cursor or the end of a selection may stand between the two halves of one is left
out, since a text without a half is no text. What a platform leaves there can only be
given as something else it leaves. Left out are also three things of less weight: that
an input holds no more than 32767 units unless it is told otherwise, that a
stretch can be selected backwards by a negative length, and that a character may
be deleted together with the marks that combine with it.

`platformKey` is what the platform does with a key that reaches it. It deletes
for the deleting keys, and for any other it may leave whatever text it likes;
what it leaves comes with the key press. In the same way it may leave whatever it
likes while a text is composed for an input and nothing is committed yet, which
is `platformComposes`.

## Main definitions

* `Selection`: What is selected.
* `LineEdit`: An input of one line.
* `Edited`: An edit with the texts it announced.
* `LineEdit.setText`, `LineEdit.insert`: Changing the text.
* `LineEdit.moveCursor`, `LineEdit.select`, `LineEdit.selectAll`: Moving about.
* `Counting`: How a platform counts characters.
* `LineEdit.toldPlace`: Where a platform says that the selection or the cursor is.
* `KeyPress`: A key, with all that comes with it.
* `LineEdit.platformKey`, `LineEdit.platformComposes`: What the platform does with a
  key, and while something is composed.
-/

namespace ManagerSignup

/-- How a platform counts characters: each as one, or by units of sixteen bits. -/
inductive Counting where
  | characters
  | units
  deriving DecidableEq, Repr

namespace Counting

/-- What a character counts. -/
def width (k : Counting) (c : Char) : Nat :=
  match k with
  | characters => 1
  | units => (Text.unitsOf c).length

/-- What a text counts, which is the place behind it. -/
def extent (k : Counting) : Text → Nat
  | [] => 0
  | c :: rest => k.width c + k.extent rest

end Counting

/-- A stretch of a text, the end not included. -/
structure Selection where
  start : Nat
  stop : Nat
  deriving DecidableEq, Repr

/-- An input of one line. -/
structure LineEdit where
  text : Text
  cursor : Nat
  selection : Option Selection
  cursor_le : cursor ≤ text.length
  selection_ok : ∀ s, selection = some s → s.start < s.stop ∧ s.stop ≤ text.length

/-- An edit with the texts it announced, in order. -/
structure Edited where
  edit : LineEdit
  announced : List Text

namespace LineEdit

/-- A line edit with a text, the cursor at its end and nothing selected. -/
def ofText (t : Text) : LineEdit :=
  { text := t
    cursor := t.length
    selection := none
    cursor_le := Nat.le_refl _
    selection_ok := by simp }

/-- An empty line edit. -/
def empty : LineEdit :=
  ofText []

/-- Setting the text: the cursor goes to its end, nothing is selected, and a
    text that was there already is not announced. -/
def setText (e : LineEdit) (t : Text) : Edited :=
  { edit := ofText t, announced := if e.text = t then [] else [t] }

/-- Moving the cursor to a position, or as near to it as there is one; nothing
    stays selected. -/
def moveCursor (e : LineEdit) (position : Int) : LineEdit :=
  { text := e.text
    cursor := min position.toNat e.text.length
    selection := none
    cursor_le := Nat.min_le_right _ _
    selection_ok := by simp }

/-- Moving the cursor to the end; nothing stays selected. -/
def toEnd (e : LineEdit) : LineEdit :=
  e.moveCursor e.text.length

/-- Selecting a stretch by its start and its length; what lies beyond the end is
    left out, and the cursor goes to the end of the stretch. A start that is not
    in the text is ignored. -/
def select (e : LineEdit) (start length : Int) : LineEdit :=
  if 0 ≤ start ∧ start ≤ e.text.length then
    let first := start.toNat
    let stop := min (start + length).toNat e.text.length
    { text := e.text
      cursor := stop
      selection := if first < stop then some ⟨first, stop⟩ else none
      cursor_le := Nat.min_le_right _ _
      selection_ok := by
        intro s h
        split at h
        · next hlt =>
          cases h
          exact ⟨hlt, Nat.min_le_right _ _⟩
        · cases h }
  else e

/-- Selecting the whole text. -/
def selectAll (e : LineEdit) : LineEdit :=
  e.select 0 e.text.length

/-- Where an insertion begins: at the selection, or at the cursor. -/
def insertStart (e : LineEdit) : Nat :=
  match e.selection with
  | some s => s.start
  | none => e.cursor

/-- Where the text behind an insertion begins. -/
def insertStop (e : LineEdit) : Nat :=
  match e.selection with
  | some s => s.stop
  | none => e.cursor

/-- Inserting a text in the place of the selection, or at the cursor. The cursor
    goes behind the inserted text and nothing stays selected. -/
def insert (e : LineEdit) (t : Text) : Edited :=
  let before := e.text.take e.insertStart
  let result := before ++ t ++ e.text.drop e.insertStop
  { edit :=
      { text := result
        cursor := before.length + t.length
        selection := none
        cursor_le := by simp only [result, List.length_append]; omega
        selection_ok := by simp }
    announced := if t.isEmpty && e.selection.isNone then [] else [result] }

/-- Replacing the whole text by way of the selection, so that the replacement
    can be undone. -/
def replaceAll (e : LineEdit) (t : Text) : Edited :=
  let inserted := e.selectAll.insert t
  { inserted with edit := inserted.edit.toEnd }

/-- Where the platform says that the selection begins, or with nothing selected that
    the cursor stands. -/
def toldPlace (e : LineEdit) (k : Counting) : Nat :=
  k.extent (e.text.take e.insertStart)

/-- Removing the character at a position; the cursor goes there. -/
def removeAt (e : LineEdit) (position : Nat) : Edited :=
  (e.select position 1).insert []

end LineEdit

/-- The keys that are told apart. -/
inductive Key where
  | backspace
  | delete
  | other
  deriving DecidableEq, Repr

/-- The editing commands that a key may stand for. -/
inductive Shortcut where
  | copy
  | cut
  | paste
  | selectAll
  | undo
  | redo
  deriving DecidableEq, Repr

/-- The keys held down beside the one that was pressed. -/
structure Modifiers where
  shift : Bool := false
  control : Bool := false
  alt : Bool := false
  platform : Bool := false
  deriving DecidableEq, Repr

/-- What the platform leaves in an input: a text and the position of the cursor,
    the end if there is none. -/
structure PlatformEdit where
  text : Text
  cursor : Option Int
  deriving DecidableEq, Repr

/-- A key, with all that comes with it: the text it stands for, the keys held
    down, the command it means, what the clipboard holds, what the platform would
    leave if it is not a matter of plain deletion, and how the platform counts. -/
structure KeyPress where
  text : Text := []
  key : Key := .other
  modifiers : Modifiers := {}
  shortcut : Option Shortcut := none
  clipboard : Text := []
  platformEdit : Option PlatformEdit := none
  counting : Counting := .characters
  deriving DecidableEq, Repr

namespace KeyPress

/-- The key means the command. -/
def means (p : KeyPress) (s : Shortcut) : Bool :=
  p.shortcut = some s

/-- A deleting key that deletes a single character or the selection; with any of
    three modifiers it would delete whole words. -/
def isPlainDeletion (p : KeyPress) : Bool :=
  (p.key = .backspace || p.key = .delete) &&
    !(p.modifiers.control || p.modifiers.alt || p.modifiers.platform)

end KeyPress

namespace LineEdit

/-- Deleting the selection, or with nothing selected the character before or
    after the cursor. -/
def deleteByKey (e : LineEdit) (key : Key) : Edited :=
  match e.selection, key with
  | some _, _ => e.insert []
  | none, .backspace => if 0 < e.cursor then e.removeAt (e.cursor - 1) else ⟨e, []⟩
  | none, .delete => if e.cursor < e.text.length then e.removeAt e.cursor else ⟨e, []⟩
  | none, .other => ⟨e, []⟩

/-- The platform leaving a text and a cursor of its own. -/
def platformLeaves (e : LineEdit) (left : PlatformEdit) : Edited :=
  let set := e.setText left.text
  { set with edit := set.edit.moveCursor (left.cursor.getD left.text.length) }

/-- What the platform does with a key that reaches it. -/
def platformKey (e : LineEdit) (p : KeyPress) : Edited :=
  match p.platformEdit with
  | some left => e.platformLeaves left
  | none =>
      if p.means .cut || p.isPlainDeletion then e.deleteByKey p.key else ⟨e, []⟩

/-- What the platform does while something is composed and nothing is committed:
    nothing, unless it leaves a text of its own. -/
def platformComposes (e : LineEdit) (left : Option PlatformEdit) : Edited :=
  match left with
  | some left => e.platformLeaves left
  | none => ⟨e, []⟩

end LineEdit

end ManagerSignup
