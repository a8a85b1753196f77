/-!
# Text

What a person types, pastes or stores, as a list of code points.

Everything the form decides about a text is decided code point by code point
from the left: whether the next character may follow, where a run of separators
begins, which character a deletion removes. A list says that directly, and a
position in a text is a position in the list. Messages, which nobody takes
apart, stay strings; the two meet in `Text.ofString` and `Text.toString`.

## Main definitions

* `Text`: A text as its code points.
* `Text.ofString`, `Text.toString`: The same text as a string.
* `Text.occursIn`: One text stands somewhere inside another.
* `Text.without`: A text without a stretch of it.
* `Text.units`: The units of sixteen bits that a text has elsewhere.
* `Text.isDigit`: The ten digits, and no other script's.
-/

namespace ManagerSignup

/-- A text as the list of its code points. -/
abbrev Text := List Char

namespace Text

/-- The code points of a string. -/
def ofString (s : String) : Text :=
  s.toList

/-- The string with these code points. -/
def toString (t : Text) : String :=
  String.ofList t

/-- Whether `word` stands somewhere in a text, its letters side by side. -/
def occursIn (word : Text) : Text → Bool
  | [] => word.isEmpty
  | c :: rest => word.isPrefixOf (c :: rest) || occursIn word rest

/-- A text without so many characters from a position on. -/
def without (t : Text) (start count : Nat) : Text :=
  t.take start ++ t.drop (start + count)

/-- The units of sixteen bits of a character: its code, or the two halves of one that is
    beyond the first 65536. -/
def unitsOf (c : Char) : List Nat :=
  if c.toNat < 0x10000 then [c.toNat]
  else
    let rest := c.toNat - 0x10000
    [0xd800 + rest / 0x400, 0xdc00 + rest % 0x400]

/-- The units of a text. -/
def units (t : Text) : List Nat :=
  t.flatMap unitsOf

/-- A digit from zero to nine. Digits of other scripts are letters here, since
    no field accepts them. -/
def isDigit (c : Char) : Bool :=
  '0' ≤ c && c ≤ '9'

end Text

end ManagerSignup
