import ManagerSignup.Decimal.Binary64

/-!
# Shortest Decimals

The decimal with the fewest digits that reads back as a given number, and of
those the nearest to it.

The reals that round to a number form an interval around it: half a step of the
format to each side, where the step below a power of two is half as wide, and
the ends belong to it exactly when the significand is even. A decimal with `n`
digits is a point of a grid of powers of ten. If any point of that grid lies in
the interval then one of the two grid neighbours of the number does, so for
every `n` two candidates are enough, and the first `n` with a hit wins.
Seventeen digits always suffice for the format.

All comparisons are between integers: the number, the ends and the grid point
are multiplied by the same powers of two and ten first.

## Main definitions

* `Decimal`: A coefficient and a power of ten.
* `Span`: A number and its interval, scaled to integers for one grid.
* `Span.onGrid?`: The better grid neighbour that reads back.
* `Binary64.shortest`: The shortest decimal of a positive finite number.
-/

namespace ManagerSignup

/-- The number `coefficient * 10 ^ exponent`. -/
structure Decimal where
  coefficient : Nat
  exponent : Int
  deriving DecidableEq, Repr

namespace Decimal

/-- The same number without zeros at the end of the coefficient, at most
    `fuel` of them. -/
def dropZeros : Nat → Decimal → Decimal
  | 0, d => d
  | fuel + 1, d =>
      if d.coefficient ≠ 0 ∧ d.coefficient % 10 = 0 then
        dropZeros fuel ⟨d.coefficient / 10, d.exponent + 1⟩
      else d

end Decimal

/-- A number between the ends of its interval, measured in such a unit that the
    grid points are the multiples of `step`. -/
structure Span where
  low : Nat
  value : Nat
  high : Nat
  step : Nat
  closed : Bool

namespace Span

/-- The interval of `m * 2 ^ e` on the grid of multiples of `10 ^ p`. The unit
    of length is a quarter of `2 ^ e`, before the powers of two and ten in the
    denominators are cleared. -/
def around (m : Nat) (e p : Int) : Span :=
  let binary := Nat.pow 2 (e - 2).toNat * Nat.pow 10 (-p).toNat
  let below :=
    if m = Nat.pow 2 (Binary64.precision - 1) ∧ e ≠ Binary64.leastExponent then 1 else 2
  { low := (4 * m - below) * binary
    value := 4 * m * binary
    high := (4 * m + 2) * binary
    step := Nat.pow 10 p.toNat * Nat.pow 2 (2 - e).toNat
    closed := m % 2 = 0 }

/-- The point lies in the interval. -/
def contains (s : Span) (x : Nat) : Bool :=
  if s.closed then s.low ≤ x && x ≤ s.high else s.low < x && x < s.high

/-- Of the two grid points around the value the one that lies in the interval,
    the nearer if both do, the even one if they are equally near. -/
def onGrid? (s : Span) : Option Nat :=
  let c := s.value / s.step
  let below := s.value - c * s.step
  let above := (c + 1) * s.step - s.value
  match s.contains (c * s.step), s.contains ((c + 1) * s.step) with
  | false, false => none
  | true, false => some c
  | false, true => some (c + 1)
  | true, true =>
      if below < above ∨ (below = above ∧ c % 2 = 0) then some c else some (c + 1)

end Span

namespace Binary64

/-- The greatest `k` with `10 ^ k ≤ n / d`, for a positive quotient. -/
def decimalOrder (n d : Nat) : Int :=
  let k : Int := ((Nat.toDigits 10 n).length : Int) - (Nat.toDigits 10 d).length
  if n * Nat.pow 10 (-k).toNat < d * Nat.pow 10 k.toNat then k - 1 else k

/-- The shortest decimal that reads back as `m * 2 ^ e`, for a positive `m`. -/
def shortest (m : Nat) (e : Int) : Decimal :=
  let order := decimalOrder (m * Nat.pow 2 e.toNat) (Nat.pow 2 (-e).toNat)
  let candidate? (n : Nat) : Option Decimal :=
    let p := order - n
    ((Span.around m e p).onGrid?).map fun c => ⟨c, p⟩
  match (List.range 17).findSome? candidate? with
  | some d => d.dropZeros 18
  | none => ⟨m, e⟩

end Binary64

end ManagerSignup
