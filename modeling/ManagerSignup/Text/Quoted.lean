import ManagerSignup.Text
import ManagerSignup.Text.Printable

/-!
# Quoted Text

A text as a literal: between quotes, with everything escaped that would not be
seen or would end the literal too early.

The quote is an apostrophe unless the text holds apostrophes and no double
quote, so that most texts need no escape at all. A character that is not
printable is written by its number, in the shortest of three forms that can
hold it. Apart from the choice of the quote the literal is built one character
at a time, and no character's form depends on its neighbours.

## Main definitions

* `hexDigits`: A number in base sixteen with a fixed number of digits.
* `quoteMark`: The quote a text is put between.
* `escapeChar`: One character inside the quotes.
* `quote`: The whole literal.
-/

namespace ManagerSignup

namespace Text

/-- The digit for a number below sixteen. -/
def hexDigit (n : Nat) : Char :=
  if n < 10 then Char.ofNat (48 + n) else Char.ofNat (87 + n)

/-- The last `width` digits of a number in base sixteen. -/
def hexDigits : Nat → Nat → Text
  | 0, _ => []
  | width + 1, n => hexDigits width (n / 16) ++ [hexDigit (n % 16)]

/-- The quote a text is put between. -/
def quoteMark (t : Text) : Char :=
  if t.elem '\'' && !t.elem '"' then '"' else '\''

/-- A character by its number, in the shortest form that can hold it. -/
def escapeCode (n : Nat) : Text :=
  if n < 0x100 then '\\' :: 'x' :: hexDigits 2 n
  else if n < 0x10000 then '\\' :: 'u' :: hexDigits 4 n
  else '\\' :: 'U' :: hexDigits 8 n

/-- One character of the text as it stands between the quotes. -/
def escapeChar (mark c : Char) : Text :=
  if c = mark ∨ c = '\\' then ['\\', c]
  else if c = '\n' then ['\\', 'n']
  else if c = '\r' then ['\\', 'r']
  else if c = '\t' then ['\\', 't']
  else if isPrintable c then [c]
  else escapeCode c.toNat

/-- A text as a literal. -/
def quote (t : Text) : Text :=
  let mark := quoteMark t
  mark :: t.flatMap (escapeChar mark) ++ [mark]

/-- A string as a literal. -/
def quoteString (s : String) : String :=
  toString (quote (ofString s))

end Text

end ManagerSignup
