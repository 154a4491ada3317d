import PeerName.Number.Shortest

/-!
# The written form of a number

How digits are laid out: in place, with a decimal point among them, or in scientific form, with
one digit before the point and a power of ten behind.

* `natText`, `intText` — integers in decimal digits;
* `positional`, `scientific` — the two layouts;
* `Binary64.text` — the shortest form of a double, in place from `10^-4` up to `10^16`.
-/

namespace PeerName

/-- The digit of a number below sixteen. -/
def digitChar (n : Nat) : Char :=
  if n < 10 then Char.ofNat (0x30 + n) else Char.ofNat (0x57 + n)

/-- The digits of a number to a base, the last one first; `fuel` bounds their number. -/
def digitsFrom (base : Nat) : Nat → Nat → List Char
  | 0, _ => []
  | fuel + 1, n =>
    digitChar (n % base) :: if n / base = 0 then [] else digitsFrom base fuel (n / base)

/-- The digits of a number to a base of at least two. -/
def digitsOf (base n : Nat) : List Char := (digitsFrom base (Nat.log2 n + 1) n).reverse

/-- A natural number in decimal digits. -/
def natText (n : Nat) : List Char := digitsOf 10 n

/-- An integer in decimal digits, with a minus sign if it is negative. -/
def intText (n : Int) : List Char :=
  if n < 0 then '-' :: natText n.natAbs else natText n.natAbs

/-- Digits filled with zeros in front up to a width. -/
def zeroFill (width : Nat) (digits : List Char) : List Char :=
  List.replicate (width - digits.length) '0' ++ digits

/-- The digits of a decimal, the point standing `point` digits from the left; at least
`places` digits follow it. -/
def positional (digits : List Char) (point : Int) (places : Nat) : List Char × List Char :=
  let whole := if point ≤ 0 then ['0']
    else digits.take point.toNat ++ List.replicate (point.toNat - digits.length) '0'
  let rest := if point ≤ 0 then List.replicate (-point).toNat '0' ++ digits
    else digits.drop point.toNat
  (whole, rest ++ List.replicate (places - rest.length) '0')

/-- The exponent of the scientific form: a sign and at least two digits. -/
def exponentText (e : Int) : List Char :=
  (if e < 0 then '-' else '+') :: zeroFill 2 (natText e.natAbs)

/-- One digit, the point if more digits follow, these digits, and the exponent behind `mark`. -/
def scientific (digits : List Char) (e : Int) (mark : Char) : List Char :=
  match digits with
  | [] => []
  | [d] => d :: mark :: exponentText e
  | d :: rest => d :: '.' :: rest ++ mark :: exponentText e

/-- The written form of a decimal: in place when the leading digit stands for a power of ten
from `10^-4` to `10^15`, and scientific otherwise. -/
def Decimal.text (d : Decimal) : List Char :=
  let digits := natText d.digits
  let point := digits.length + d.exponent
  if -4 < point ∧ point ≤ 16 then
    let parts := positional digits point 1
    parts.1 ++ '.' :: parts.2
  else scientific digits (point - 1) 'e'

/-- The shortest text of a double; the spellings of the infinite and the undefined number are
the caller's. -/
def Binary64.textWith (infinity undefined : List Char) (x : Binary64) : List Char :=
  let sign := if x.isNegative then ['-'] else []
  match x.decode with
  | .undefined => undefined
  | .infinite => sign ++ infinity
  | .finite 0 _ => sign ++ ['0', '.', '0']
  | .finite m q => sign ++ (Decimal.shortest m q).text

/-- The shortest text of a double. -/
def Binary64.text (x : Binary64) : List Char :=
  x.textWith ['i', 'n', 'f'] ['n', 'a', 'n']

end PeerName
