import ManagerSignup.Text

/-!
# Blank Characters

White space, and the text without the white space around it.

The set is wider than the one core uses: next to the space and the five control
characters everyone knows it holds the four information separators, the next
line, the no-break spaces and the separators of Unicode. A value pasted from a
document brings exactly those, so a narrower set would refuse a phone number
for a space that nobody sees.

## Main definitions

* `isBlank`: The character is white space.
* `trim`: A text without the white space at its two ends.
* `allBlank`: Nothing but white space.
-/

namespace ManagerSignup

namespace Text

/-- The code point is white space. -/
def isBlankCode (n : Nat) : Bool :=
  (0x9 ≤ n && n ≤ 0xd) || (0x1c ≤ n && n ≤ 0x20) || n == 0x85 || n == 0xa0 || n == 0x1680 ||
    (0x2000 ≤ n && n ≤ 0x200a) || n == 0x2028 || n == 0x2029 || n == 0x202f || n == 0x205f ||
    n == 0x3000

/-- The character is white space. -/
def isBlank (c : Char) : Bool :=
  isBlankCode c.toNat

/-- A text from its first character that is not white space. -/
def trimStart (t : Text) : Text :=
  t.dropWhile isBlank

/-- A text up to its last character that is not white space. -/
def trimEnd (t : Text) : Text :=
  (t.reverse.dropWhile isBlank).reverse

/-- A text without the white space at its two ends. -/
def trim (t : Text) : Text :=
  trimEnd (trimStart t)

/-- A text of white space only, the empty one included. -/
def allBlank (t : Text) : Bool :=
  t.all isBlank

end Text

end ManagerSignup
