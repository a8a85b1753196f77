import ManagerSignup.Failure.Fault.Arguments

/-!
# Syntax Faults

A text that should have been a program and is none.

A syntax fault has a message, which is its first argument and shown even if it
is missing, and may say where in which file it stands. The place comes as a
second argument that has to hold four to six entries: file, line, column and the
text of the line, and then perhaps where the faulty stretch ends, for which line
and column have to be given together. Of the file only the name is shown, without
the folders it lies in. With more than two arguments there is no place, and the
others are not shown either.

## Main definitions

* `Fault.baseName`: The name of a file without its folders.
* `Fault.entriesOf`: The entries of a value that holds several.
* `Fault.ofSyntax`: A syntax fault from its arguments.
-/

namespace ManagerSignup

namespace Fault

/-- The name of a file without the folders it lies in. -/
def baseName (path : Text) : Text :=
  (path.reverse.takeWhile fun c => c ≠ '/').reverse

/-- The entries of a value that holds several: those of a list, the names in an
    object, or the characters of a text. -/
def entriesOf (x : Value) : Except Fault (List Value) :=
  match x with
  | .list items => .ok items
  | .object members => .ok (members.map fun entry => .text entry.1)
  | .text s => .ok ((Text.ofString s).map fun c => .text (Text.toString [c]))
  | _ => .error (badShape ("'" ++ x.kind ++ "' object is not iterable"))

/-- A line as it is shown; one that does not fit into a machine word is lost. -/
def lineText (line : Int) : Text :=
  Text.ofString "line " ++ integerText (if fitsWord line then line else -1)

/-- File and line as they are shown behind the message. -/
def placeText (file line : Value) : Text :=
  match file, line with
  | .text path, .int n =>
      ' ' :: '(' :: baseName (Text.ofString path) ++ ',' :: ' ' :: lineText n ++ [')']
  | .text path, _ => ' ' :: '(' :: baseName (Text.ofString path) ++ [')']
  | _, .int n => ' ' :: '(' :: lineText n ++ [')']
  | _, _ => []

/-- The place a syntax fault was given. -/
def placeOf (place : Value) : Except Fault Text := do
  let entries ← entriesOf place
  checkCount "function" 4 6 entries.length
  match entries with
  | [_, _, _, _, _] =>
      .error (badShape "end_offset must be provided when end_lineno is provided")
  | file :: line :: _ => return placeText file line
  | _ => return []

/-- A syntax fault raised with given arguments. -/
def ofSyntax (name : String) (arguments : List Value) : Except Fault Fault := do
  let message := (arguments[0]?.getD Value.null).plain
  let place ← match arguments with
    | [_, place] => placeOf place
    | _ => pure []
  return named name (Text.toString (message ++ place))

end Fault

end ManagerSignup
