import ManagerSignup.Text
import ManagerSignup.Text.CaseTable

/-!
# Letter Case

Capitals and small letters for all of Unicode.

The mappings are the full ones: a capital may be longer than the letter it
stands for (the sharp s becomes two letters), so a character is mapped to a
text and a text by mapping each character and joining. Every character is
mapped on its own; the word-final form of the Greek sigma is not told apart,
because small letters serve only to find a few Latin words in a text.

## Main definitions

* `upperChar`, `lowerChar`: The capital and the small form of one character.
* `upper`, `lower`: The same for a whole text.
-/

namespace ManagerSignup

namespace Text

/-- The image of a character under a pair of tables: the expansions first, then
    the runs, and itself where neither names it. -/
def mapCase (expansions : List (Nat × List Nat)) (runs : List CaseRun) (c : Char) : Text :=
  match expansions.lookup c.toNat with
  | some codes => codes.map Char.ofNat
  | none =>
      match runs.findSome? fun run => run.image? c.toNat with
      | some code => [Char.ofNat code]
      | none => [c]

/-- The capital of a character. -/
def upperChar (c : Char) : Text :=
  mapCase upperExpansions upperRuns c

/-- The small form of a character. -/
def lowerChar (c : Char) : Text :=
  mapCase lowerExpansions lowerRuns c

/-- A text in capitals. -/
def upper (t : Text) : Text :=
  t.flatMap upperChar

/-- A text in small letters. -/
def lower (t : Text) : Text :=
  t.flatMap lowerChar

end Text

end ManagerSignup
