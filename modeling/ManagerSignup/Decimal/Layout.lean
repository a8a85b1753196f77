import ManagerSignup.Text
import ManagerSignup.Decimal.Shortest

/-!
# Number Layout

How the digits of a number are arranged: where the point stands, when the
notation changes to an exponent, and what the numbers without digits are called.

`Decimal.Shortest` decides which digits are written. What is left is a handful
of conventions, and they are one record, `NumberLayout`, so that the whole
format can be read off one value. `plainNumbers` is the one used wherever a
number is shown: positional from a ten-thousandth up to sixteen digits before
the point, always with a digit after it, and otherwise with an exponent of at
least two digits and its sign.

## Main definitions

* `NumberLayout`: The conventions of a number format.
* `plainNumbers`: The conventions in use.
* `NumberLayout.decimal`: A decimal written by the conventions.
* `NumberLayout.number`: Any number written by the conventions.
-/

namespace ManagerSignup

/-- The conventions by which a number is written. The exponent of a number is
    that of its first digit. -/
structure NumberLayout where
  /-- The least exponent that is written positionally. -/
  leastPositional : Int
  /-- The greatest exponent that is written positionally. -/
  greatestPositional : Int
  /-- The mark before an exponent. -/
  exponentMark : Char
  /-- The least number of digits of an exponent. -/
  exponentWidth : Nat
  /-- The name of an infinite number, after its sign. -/
  infinite : Text
  /-- The name of what is not a number. -/
  notANumber : Text

/-- Numbers as messages and stored values show them. -/
def plainNumbers : NumberLayout :=
  { leastPositional := -4
    greatestPositional := 15
    exponentMark := 'e'
    exponentWidth := 2
    infinite := ['i', 'n', 'f']
    notANumber := ['n', 'a', 'n'] }

/-- A whole number in base ten. -/
def digitsOf (n : Nat) : Text :=
  Nat.toDigits 10 n

/-- A whole number in base ten with zeros in front up to a width. -/
def paddedDigits (width n : Nat) : Text :=
  List.replicate (width - (digitsOf n).length) '0' ++ digitsOf n

/-- An integer in base ten with a sign if it is negative. -/
def integerText (i : Int) : Text :=
  if i < 0 then '-' :: digitsOf i.natAbs else digitsOf i.natAbs

namespace NumberLayout

/-- Digits with the point after the first `whole` of them; zeros fill up both
    sides, and there is a digit on each. -/
def positional (digits : Text) (whole : Int) : Text :=
  if whole ≤ 0 then
    '0' :: '.' :: List.replicate (-whole).toNat '0' ++ digits
  else if whole < digits.length then
    digits.take whole.toNat ++ '.' :: digits.drop whole.toNat
  else
    digits ++ List.replicate (whole.toNat - digits.length) '0' ++ ['.', '0']

/-- Digits with the point after the first and the exponent behind. -/
def scientific (layout : NumberLayout) (digits : Text) (exponent : Int) : Text :=
  let mantissa := match digits with
    | [] => []
    | [d] => [d]
    | d :: rest => d :: '.' :: rest
  mantissa ++ layout.exponentMark :: (if exponent < 0 then '-' else '+')
    :: paddedDigits layout.exponentWidth exponent.natAbs

/-- A positive decimal. -/
def decimal (layout : NumberLayout) (d : Decimal) : Text :=
  let digits := digitsOf d.coefficient
  let exponent := d.exponent + digits.length - 1
  if layout.leastPositional ≤ exponent ∧ exponent ≤ layout.greatestPositional then
    positional digits (exponent + 1)
  else
    layout.scientific digits exponent

/-- Any number of the binary format. -/
def number (layout : NumberLayout) : Binary64 → Text
  | .finite negative m e =>
      let size := if m = 0 then positional ['0'] 1 else layout.decimal (Binary64.shortest m e)
      if negative then '-' :: size else size
  | .infinite negative => if negative then '-' :: layout.infinite else layout.infinite
  | .nan => layout.notANumber

end NumberLayout

end ManagerSignup
