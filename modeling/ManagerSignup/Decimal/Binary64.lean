/-!
# Binary Floating Point

The numbers a decimal literal with a point or an exponent stands for.

A literal is not kept as it was written: it stands for the nearest number with
53 significant bits, ties going to the even neighbour, as IEEE 754 has it for
its 64-bit format. Everything a reader of settings or of a server's answer
needs is here in exact integer arithmetic, so a number is plain data: a sign, a
significand and a power of two. No runtime floating point takes part, which
leaves nothing about these numbers that a proof could not look into.

A finite number is canonical: its significand has 53 bits, or fewer with the
least exponent. Two finite numbers other than zero are then equal exactly when
their parts are, and `sameNumber` only has to add that zero has no sign.

## Main definitions

* `Binary64`: A number of the format.
* `divideToEven`: A quotient rounded to the nearest integer, ties to even.
* `Binary64.ofQuotient`: The number nearest to a quotient.
* `Binary64.ofDecimal`: The number nearest to a decimal.
* `Binary64.sameNumber`, `Binary64.sameInteger`: Equality as numbers.
-/

namespace ManagerSignup

/-- A number in the 64-bit binary format; `finite` stands for
    `significand * 2 ^ exponent`, with its sign. -/
inductive Binary64 where
  | finite (negative : Bool) (significand : Nat) (exponent : Int)
  | infinite (negative : Bool)
  | nan
  deriving DecidableEq, Repr

/-- The integer nearest to `n / d`; a half goes to the even neighbour. -/
def divideToEven (n d : Nat) : Nat :=
  let q := n / d
  let r := n % d
  if d < 2 * r ∨ (d = 2 * r ∧ q % 2 = 1) then q + 1 else q

namespace Binary64

/-- The least exponent of the format. -/
def leastExponent : Int := -1074

/-- The greatest exponent of the format. -/
def greatestExponent : Int := 971

/-- The bits of a full significand. -/
def precision : Nat := 53

/-- The greatest `k` with `2 ^ k ≤ n / d`, for a positive quotient. -/
def binaryOrder (n d : Nat) : Int :=
  let k : Int := (n.log2 : Int) - d.log2
  if n * Nat.pow 2 (-k).toNat < d * Nat.pow 2 k.toNat then k - 1 else k

/-- The number nearest to the positive quotient `n / d`. A significand that
    rounds up to one bit too many is halved, and one whose exponent leaves the
    format becomes infinite. -/
def ofQuotient (negative : Bool) (n d : Nat) : Binary64 :=
  let e := max (binaryOrder n d - (precision - 1)) leastExponent
  let m := divideToEven (n * Nat.pow 2 (-e).toNat) (d * Nat.pow 2 e.toNat)
  let (m, e) := if m = Nat.pow 2 precision then (Nat.pow 2 (precision - 1), e + 1) else (m, e)
  if greatestExponent < e then .infinite negative else .finite negative m e

/-- The number nearest to `digits * 10 ^ exponent`. Decimals far outside the
    format are settled by their order alone, so that a literal with a huge
    exponent costs nothing. -/
def ofDecimal (negative : Bool) (digits : Nat) (exponent : Int) : Binary64 :=
  let order : Int := exponent + (Nat.toDigits 10 digits).length
  if digits = 0 ∨ order < -330 then .finite negative 0 leastExponent
  else if 320 < order then .infinite negative
  else ofQuotient negative (digits * Nat.pow 10 exponent.toNat) (Nat.pow 10 (-exponent).toNat)

/-- The number is zero, with either sign. -/
def isZero : Binary64 → Bool
  | .finite _ 0 _ => true
  | _ => false

/-- Equality as numbers: zero has no sign. A number that is not a number counts
    as equal to itself, because a stored value is compared with itself as the
    thing it is. -/
def sameNumber (x y : Binary64) : Bool :=
  (x.isZero && y.isZero) || x = y

/-- Equality with an integer. -/
def sameInteger (x : Binary64) (i : Int) : Bool :=
  match x with
  | .finite negative m e =>
      let signed : Int := if negative then -m else m
      signed * Int.pow 2 e.toNat = i * Int.pow 2 (-e).toNat
  | _ => false

end Binary64

end ManagerSignup
