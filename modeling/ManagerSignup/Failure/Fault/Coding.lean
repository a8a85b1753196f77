import ManagerSignup.Failure.Fault.Arguments
import ManagerSignup.Text.Quoted

/-!
# Coding Faults

A text that cannot be written in an encoding, or bytes that cannot be read in
one.

Such a fault names a stretch of the text by its start and its end, the end not
included. A stretch of one character is shown by the number of that character,
and any other by its positions. Nothing makes sure that the stretch lies in the
text: an end before the start is shown as it is, and only a single character
before the first one is a fault of its own.

The fault of reading bytes cannot be raised from outside, because bytes cannot
be given there, but all else about it is checked before that is found out.

## Main definitions

* `Fault.stretchText`: A stretch of a text in words.
* `Fault.ofEncoding`, `Fault.ofTranslation`, `Fault.ofDecoding`: The faults from
  their arguments.
-/

namespace ManagerSignup

namespace Fault

/-- A number that an argument of a coding fault cannot hold. -/
def positionTooLarge : Fault :=
  named "OverflowError" "Python int too large to convert to C ssize_t"

/-- Several positions in words; the end is not one of them, and the last one is
    found by going back from it within a machine word. -/
def positionsText (start stop : Int) : Text :=
  Text.ofString "characters in position " ++ integerText start ++
    '-' :: integerText ((stop - 1).bmod (Nat.pow 2 64))

/-- A stretch of a text in words. -/
def stretchText (t : Text) (start stop : Int) : Except Fault Text :=
  if stop = start + 1 ∧ start < t.length then
    if start < 0 then .error (named "IndexError" "string index out of range")
    else
      match t[start.toNat]? with
      | some c =>
          .ok (Text.ofString "character '" ++ Text.escapeCode c.toNat ++
            Text.ofString "' in position " ++ integerText start)
      | none => .ok (positionsText start stop)
  else .ok (positionsText start stop)

/-- The fault of writing a text in an encoding: encoding, text, start, end and
    reason. -/
def ofEncoding (name : String) (arguments : List Value) : Except Fault Fault := do
  checkCount "function" 5 5 arguments.length
  match arguments with
  | [encoding, text, start, stop, reason] =>
      let encoding ← textArgument "" 1 encoding
      let text ← textArgument "" 2 text
      let start ← wholeArgument positionTooLarge start
      let stop ← wholeArgument positionTooLarge stop
      let reason ← textArgument "" 5 reason
      let stretch ← stretchText text start stop
      return named name (Text.toString
        ('\'' :: encoding ++ Text.ofString "' codec can't encode " ++ stretch ++
          ':' :: ' ' :: reason))
  | _ => return named name ""

/-- The fault of replacing characters of a text: text, start, end and reason. -/
def ofTranslation (name : String) (arguments : List Value) : Except Fault Fault := do
  checkCount "function" 4 4 arguments.length
  match arguments with
  | [text, start, stop, reason] =>
      let text ← textArgument "" 1 text
      let start ← wholeArgument positionTooLarge start
      let stop ← wholeArgument positionTooLarge stop
      let reason ← textArgument "" 4 reason
      let stretch ← stretchText text start stop
      return named name (Text.toString
        (Text.ofString "can't translate " ++ stretch ++ ':' :: ' ' :: reason))
  | _ => return named name ""

/-- The fault of reading bytes in an encoding: encoding, bytes, start, end and
    reason. None of the values that can be given is made of bytes. -/
def ofDecoding (arguments : List Value) : Except Fault Fault := do
  checkCount "function" 5 5 arguments.length
  match arguments with
  | [encoding, bytes, start, stop, reason] =>
      let _ ← textArgument "" 1 encoding
      let _ ← wholeArgument positionTooLarge start
      let _ ← wholeArgument positionTooLarge stop
      let _ ← textArgument "" 5 reason
      .error (badShape ("a bytes-like object is required, not '" ++ bytes.kind ++ "'"))
  | _ => return ofBytes []

end Fault

end ManagerSignup
