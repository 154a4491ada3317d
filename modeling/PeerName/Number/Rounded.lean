import PeerName.Number.Layout

/-!
# Numbers with a given number of digits

A double is written with a fixed number of places behind the point, or with a fixed number of
digits in scientific form.  The exact value is rounded once, and a half goes to the even
neighbour.

* `fixedText` — so many places behind the point;
* `scientificText` — so many places behind the first digit;
* `generalText` — so many digits, in the one form or the other, whichever suits the exponent.
-/

namespace PeerName

/-- The multiple of `10^-places` nearest to `m * 2^q`. -/
def roundToPlaces (m : Nat) (q places : Int) : Nat :=
  let two := powerRatio 2 q
  let ten := powerRatio 10 places
  roundQuotient (m * two.1 * ten.1) (two.2 * ten.2)

/-- A point with what follows it; without anything the point itself is optional. -/
def pointText (keepPoint : Bool) (places : List Char) : List Char :=
  if places.isEmpty && !keepPoint then [] else '.' :: places

/-- The number `m * 2^q` with so many places behind the point. -/
def fixedText (m : Nat) (q : Int) (places : Nat) (keepPoint : Bool) : List Char :=
  let digits := zeroFill (places + 1) (natText (roundToPlaces m q places))
  let split := digits.length - places
  digits.take split ++ pointText keepPoint (digits.drop split)

/-- The first digits of `m * 2^q`, of which `places` follow the first one, and the power of ten of
the first one. -/
def leadingDigits (m : Nat) (q : Int) (places : Nat) : List Char × Int :=
  if m = 0 then (List.replicate (places + 1) '0', 0)
  else
    let two := powerRatio 2 q
    let e := Decimal.leading (m * two.1) two.2
    let digits := natText (roundToPlaces m q (places - e))
    if digits.length = places + 2 then (digits.take (places + 1), e + 1) else (digits, e)

/-- Digits with a point behind the first one, and an exponent. -/
def exponentForm (digits : List Char) (e : Int) (mark : Char) (keepPoint : Bool) : List Char :=
  digits.take 1 ++ pointText keepPoint (digits.drop 1) ++ mark :: exponentText e

/-- The number `m * 2^q` in scientific form with so many places behind the point. -/
def scientificText (m : Nat) (q : Int) (places : Nat) (mark : Char) (keepPoint : Bool) :
    List Char :=
  let (digits, e) := leadingDigits m q places
  exponentForm digits e mark keepPoint

/-- Drops the zeros at the end. -/
def dropZeros (digits : List Char) : List Char :=
  (digits.reverse.dropWhile (· == '0')).reverse

/-- The number `m * 2^q` with at most so many digits: in scientific form if the exponent is below
-4 or not below the number of digits, and in place otherwise.  Zeros at the end are dropped unless
they are to be kept. -/
def generalText (m : Nat) (q : Int) (digits : Nat) (mark : Char) (keepZeros : Bool) : List Char :=
  let count := max digits 1
  let (all, e) := leadingDigits m q (count - 1)
  let trim (s : List Char) := if keepZeros then s else dropZeros s
  if e < -4 ∨ (count : Int) ≤ e then
    exponentForm (all.take 1 ++ trim (all.drop 1)) e mark keepZeros
  else if e < 0 then
    '0' :: pointText keepZeros (trim (List.replicate (-e - 1).toNat '0' ++ all))
  else
    let whole := (e + 1).toNat
    all.take whole ++ pointText keepZeros (trim (all.drop whole))

end PeerName
