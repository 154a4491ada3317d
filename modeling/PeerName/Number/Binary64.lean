/-!
# Double precision numbers

A double precision number is held as its 64 bits, so that two numbers are equal exactly when
they are written alike, and every operation here is exact arithmetic on natural numbers.

* `Binary64.decode` — the sign, the significand `m` and the exponent `q` of the value `m * 2^q`;
* `roundQuotient` — the integer nearest to a quotient, a half going to the even neighbour;
* `Binary64.ofRatio` — the double nearest to a quotient;
* `Binary64.ofDecimal` — the double nearest to `m * 10^e`.
-/

namespace PeerName

/-- A double precision number. -/
structure Binary64 where
  /-- The sign bit, eleven bits of exponent and fifty-two bits of fraction. -/
  bits : UInt64
  deriving DecidableEq

/-- What the bits of a double precision number stand for. -/
inductive Magnitude where
  /-- The number `m * 2^q`. -/
  | finite (m : Nat) (q : Int)
  | infinite
  | undefined

/-- The integer nearest to `num / den`; a half goes to the even neighbour. -/
def roundQuotient (num den : Nat) : Nat :=
  let floor := num / den
  let twice := 2 * (num % den)
  if twice < den then floor
  else if den < twice then floor + 1
  else if floor % 2 = 0 then floor else floor + 1

/-- The power `b^e` as a numerator and a denominator. -/
def powerRatio (b : Nat) (e : Int) : Nat × Nat :=
  if e < 0 then (1, Nat.pow b (-e).toNat) else (Nat.pow b e.toNat, 1)

namespace Binary64

/-- Whether the sign bit is set. -/
def isNegative (x : Binary64) : Bool := x.bits >>> 63 == 1

/-- The value without its sign. -/
def decode (x : Binary64) : Magnitude :=
  let exponent := ((x.bits >>> 52) &&& 0x7ff).toNat
  let fraction := (x.bits &&& 0xfffffffffffff).toNat
  if exponent = 0 then .finite fraction (-1074)
  else if exponent = 0x7ff then if fraction = 0 then .infinite else .undefined
  else .finite (Nat.pow 2 52 + fraction) (exponent - 1075)

/-- Whether the number is zero, of either sign. -/
def isZero (x : Binary64) : Bool := x.bits <<< 1 == 0

/-- The number with the given sign and the given remaining bits. -/
def ofParts (negative : Bool) (rest : Nat) : Binary64 :=
  ⟨UInt64.ofNat (if negative then Nat.pow 2 63 + rest else rest)⟩

/-- The infinite number of a sign. -/
def infinite (negative : Bool) : Binary64 := ofParts negative (0x7ff * Nat.pow 2 52)

/-- The double that is no number. -/
def undefined : Binary64 := ofParts false (0x7ff * Nat.pow 2 52 + Nat.pow 2 51)

/-- The least exponent `q` for which `num / den` is below `2^53 * 2^q`, but no less than that of
the smallest numbers. -/
def exponentOf (num den : Nat) : Int :=
  let guess : Int := (Nat.log2 num : Int) - Nat.log2 den - 53
  let scale := powerRatio 2 guess
  let q := if num * scale.2 < Nat.pow 2 53 * (scale.1 * den) then guess else guess + 1
  max q (-1074)

/-- The double nearest to `num / den`, a half going to the even significand. -/
def ofRatio (negative : Bool) (num den : Nat) : Binary64 :=
  if num = 0 then ofParts negative 0
  else
    let q := exponentOf num den
    let scale := powerRatio 2 q
    let m := roundQuotient (num * scale.2) (den * scale.1)
    if m = Nat.pow 2 53 then
      if q + 1 > 971 then infinite negative
      else ofParts negative ((q + 1 + 1075).toNat * Nat.pow 2 52)
    else if q > 971 then infinite negative
    else if m < Nat.pow 2 52 then ofParts negative m
    else ofParts negative ((q + 1075).toNat * Nat.pow 2 52 + (m - Nat.pow 2 52))

/-- The double nearest to `m * 10^e`, where `digits` bounds the number of digits of `m`. -/
def ofDecimal (negative : Bool) (m : Nat) (digits : Nat) (e : Int) : Binary64 :=
  if m = 0 ∨ e + digits < -400 then ofParts negative 0
  else if e > 400 then infinite negative
  else
    let scale := powerRatio 10 e
    ofRatio negative (m * scale.1) scale.2

/-- The double nearest to an integer. -/
def ofInt (n : Int) : Binary64 := ofRatio (n < 0) n.natAbs 1

end Binary64

end PeerName
