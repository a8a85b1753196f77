import ManagerSignup.Value
import ManagerSignup.Text.Quoted
import ManagerSignup.Decimal.Layout

/-!
# Writing Values

A value as JSON text.

The text holds only characters that every channel carries: what is not a plain
printable character is written by its code, and a code point beyond the first
plane by the two codes of its halves. Numbers are written as they are shown
elsewhere, with the names of the infinite ones spelled out, so reading the text
gives the value back.

## Main definitions

* `Value.writeText`: A text between quotes.
* `Value.write`: A whole value.
-/

namespace ManagerSignup

/-- Numbers as stored values are written. -/
def storedNumbers : NumberLayout :=
  { plainNumbers with
    infinite := ['I', 'n', 'f', 'i', 'n', 'i', 't', 'y']
    notANumber := ['N', 'a', 'N'] }

namespace Value

/-- A character by its code, or by the two codes of its halves. -/
def writeCode (n : Nat) : Text :=
  if n < 0x10000 then '\\' :: 'u' :: Text.hexDigits 4 n
  else
    let rest := n - 0x10000
    '\\' :: 'u' :: Text.hexDigits 4 (0xd800 + rest / 0x400) ++
      '\\' :: 'u' :: Text.hexDigits 4 (0xdc00 + rest % 0x400)

/-- One character between the quotes. -/
def writeChar (c : Char) : Text :=
  if c = '"' ∨ c = '\\' then ['\\', c]
  else if 0x20 ≤ c.toNat ∧ c.toNat < 0x7f then [c]
  else writeCode c.toNat

/-- A text between quotes. -/
def writeText (t : Text) : Text :=
  '"' :: t.flatMap writeChar ++ ['"']

mutual

/-- A whole value. -/
def write : Value → Text
  | null => ['n', 'u', 'l', 'l']
  | bool true => ['t', 'r', 'u', 'e']
  | bool false => ['f', 'a', 'l', 's', 'e']
  | int i => integerText i
  | float x => storedNumbers.number x
  | text s => writeText (Text.ofString s)
  | list items => '[' :: List.intercalate [','] (writeItems items) ++ [']']
  | object members => '\x7b' :: List.intercalate [','] (writeMembers members) ++ ['\x7d']

/-- The items of a list. -/
def writeItems : List Value → List Text
  | [] => []
  | x :: rest => write x :: writeItems rest

/-- The members of an object. -/
def writeMembers : List (String × Value) → List Text
  | [] => []
  | (name, x) :: rest =>
      (writeText (Text.ofString name) ++ ':' :: write x) :: writeMembers rest

end

end Value

end ManagerSignup
