import PeerName.Number.Binary64

/-!
# The shortest decimal that reads back

Among the decimals that round to a given positive double, the shortest one is taken, and of the
shortest ones the nearest.  A decimal is a natural number of digits times a power of ten.

* `Decimal` — digits and the power of ten behind them;
* `Decimal.shortest` — the shortest decimal of the double `m * 2^q`.

The search goes over the grids of one, two, … seventeen digits.  On each grid it is enough to try
the two neighbours of the number itself: when some point of a grid lies in the interval of the
numbers that round to the double, so does one of the neighbours.
-/

namespace PeerName

/-- The number `digits * 10^exponent`. -/
structure Decimal where
  digits : Nat
  exponent : Int
  deriving DecidableEq

namespace Decimal

/-- The largest `e` with `10^e ≤ num / den`, searched downward from a bound. -/
def leadingExponent (num den : Nat) : Nat → Int → Int
  | 0, e => e
  | fuel + 1, e =>
    let scale := powerRatio 10 e
    if scale.1 * den ≤ num * scale.2 then e else leadingExponent num den fuel (e - 1)

/-- The decimal exponent of the leading digit of `num / den`, for a positive number whose
binary exponent lies within the range of the doubles. -/
def leading (num den : Nat) : Int :=
  let bound : Int := (((Nat.log2 num : Int) - Nat.log2 den + 1) * 1233) / 4096 + 1
  leadingExponent num den 8 bound

/-- Removes the zeros at the end of the digits. -/
def trimZeros : Nat → Decimal → Decimal
  | 0, d => d
  | fuel + 1, d =>
    if d.digits ≠ 0 ∧ d.digits % 10 = 0 then trimZeros fuel ⟨d.digits / 10, d.exponent + 1⟩ else d

/-- The interval of the numbers that round to a double, in quarters of its last place. -/
structure Interval where
  /-- The lower end. -/
  low : Nat
  /-- The double itself. -/
  middle : Nat
  /-- The upper end. -/
  high : Nat
  /-- The power of two that the three are multiples of. -/
  exponent : Int
  /-- Whether the ends themselves round to the double. -/
  closed : Bool

/-- The interval of the double `m * 2^q`; below a power of two the numbers lie twice as dense. -/
def Interval.of (m : Nat) (q : Int) : Interval where
  low := if m = Nat.pow 2 52 ∧ q > -1074 then 4 * m - 1 else 4 * m - 2
  middle := 4 * m
  high := 4 * m + 2
  exponent := q - 2
  closed := m % 2 = 0

/-- Whether `c * num / den`, in units of the interval's power of two, lies in the interval. -/
def Interval.holds (i : Interval) (c num den : Nat) : Bool :=
  if i.closed then i.low * den ≤ c * num && c * num ≤ i.high * den
  else i.low * den < c * num && c * num < i.high * den

/-- The hit among the neighbours of the double on the grid of multiples of `10^e`, if any: the
nearer one, and the even one if both are equally near. -/
def gridHit (i : Interval) (e : Int) : Option Nat :=
  let ten := powerRatio 10 e
  let two := powerRatio 2 i.exponent
  let num := ten.1 * two.2
  let den := ten.2 * two.1
  let below := i.middle * den / num
  let above := below + 1
  match i.holds below num den, i.holds above num den with
  | true, true =>
    let toBelow := i.middle * den - below * num
    let toAbove := above * num - i.middle * den
    if toBelow < toAbove then some below
    else if toAbove < toBelow then some above
    else if below % 2 = 0 then some below else some above
  | true, false => some below
  | false, true => some above
  | false, false => none

/-- The first grid with a hit, from the grid of multiples of `10^e` on. -/
def searchGrids (i : Interval) : Nat → Int → Decimal
  | 0, e => ⟨i.middle, e⟩
  | fuel + 1, e =>
    match gridHit i e with
    | some digits => ⟨digits, e⟩
    | none => searchGrids i fuel (e - 1)

/-- The shortest decimal that rounds to the positive double `m * 2^q`. -/
def shortest (m : Nat) (q : Int) : Decimal :=
  let two := powerRatio 2 q
  let found := searchGrids (.of m q) 17 (leading (m * two.1) two.2)
  trimZeros 20 found

end Decimal

end PeerName
