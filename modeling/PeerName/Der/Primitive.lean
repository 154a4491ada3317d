import PeerName.Der.Element
import PeerName.Text.Utf8

/-!
# Simple data of the distinguished encoding

The tags of the universal class and the forms of the simple contents: truth values, integers, bit
strings, identifiers, points in time, and the string types whose characters are fixed by the type.

* `isInteger`, `isBitString`, `isIdentifier`, `boolean?` — forms of content;
* `natural?` — the number of an integer without a sign;
* `arcs`, `identifierOf` — the numbers of an identifier, and the identifier of numbers;
* `isShortTime`, `isLongTime` — times with two and with four digits for the year;
* `isPrintableString`, `isAscii`, `isVisible`, `utf16Text?`, `utf32Text?` — string types.
-/

namespace PeerName.Der

namespace Tag

def boolean : Tag := .ofByte 0x01
def integer : Tag := .ofByte 0x02
def bitString : Tag := .ofByte 0x03
def octetString : Tag := .ofByte 0x04
def null : Tag := .ofByte 0x05
def identifier : Tag := .ofByte 0x06
def utf8String : Tag := .ofByte 0x0c
def printableString : Tag := .ofByte 0x13
def ia5String : Tag := .ofByte 0x16
def shortTime : Tag := .ofByte 0x17
def longTime : Tag := .ofByte 0x18
def visibleString : Tag := .ofByte 0x1a
def universalString : Tag := .ofByte 0x1c
def bmpString : Tag := .ofByte 0x1e
def sequence : Tag := .ofByte 0x30
def set : Tag := .ofByte 0x31

/-- A tag of the context class on simple content. -/
def context (n : Nat) : Tag := ⟨4, n⟩

/-- A tag of the context class on constructed content. -/
def contextConstructed (n : Nat) : Tag := ⟨5, n⟩

end Tag

/-- The truth value of a content, of which there are two. -/
def boolean? : List UInt8 → Option Bool
  | [0] => some false
  | [0xff] => some true
  | _ => none

/-- Whether a content is an integer in the fewest bytes. -/
def isInteger : List UInt8 → Bool
  | [] => false
  | [_] => true
  | a :: b :: _ => !(a == 0 && b.toNat < 0x80) && !(a == 0xff && 0x80 ≤ b.toNat)

/-- The number of an integer that is not negative. -/
def natural? (content : List UInt8) : Option Nat :=
  match content with
  | a :: _ =>
    if isInteger content && a.toNat < 0x80 then some (bigEndian content) else none
  | [] => none

/-- Whether a content is a bit string: the number of unused bits, then the bits, the unused ones
being zero. -/
def isBitString : List UInt8 → Bool
  | [] => false
  | unused :: bits =>
    match bits.getLast? with
    | none => unused == 0
    | some last => unused.toNat ≤ 7 && last.toNat % Nat.pow 2 unused.toNat == 0

/-- Whether a bit of a bit string is set; the bits are counted from the left. -/
def hasBit (content : List UInt8) (n : Nat) : Bool :=
  match content[n / 8 + 1]? with
  | some b => b.toNat.testBit (7 - n % 8)
  | none => false

/-- The numbers in groups of seven bits that bytes are made of. -/
def groupsFrom : Nat → List UInt8 → Option (List Nat)
  | _, [] => some []
  | 0, _ :: _ => none
  | fuel + 1, bytes => do
    let (n, rest) ← readGroups 0 bytes
    let more ← groupsFrom fuel rest
    some (n :: more)

/-- The longest identifier that is read. -/
def maxIdentifierLength : Nat := 63

/-- The bound of the numbers in an identifier. -/
def arcBound : Nat := Nat.pow 2 128

/-- Whether a content is an object identifier. -/
def isIdentifier (bytes : List UInt8) : Bool :=
  !bytes.isEmpty && bytes.length ≤ maxIdentifierLength
    && (groupsFrom bytes.length bytes).any fun groups => groups.all (· < arcBound)

/-- The numbers of an object identifier; the first two are encoded as one. -/
def arcs (bytes : List UInt8) : List Nat :=
  match groupsFrom bytes.length bytes with
  | some (first :: rest) =>
    if first < 80 then first / 40 :: first % 40 :: rest else 2 :: (first - 80) :: rest
  | _ => []

/-- A number in groups of seven bits, all but the last marked; `fuel` bounds their count. -/
def writeGroups (mark : Nat) : Nat → Nat → List UInt8
  | 0, _ => []
  | fuel + 1, n =>
    (if n < 128 then [] else writeGroups 0x80 fuel (n / 128)) ++ [UInt8.ofNat (n % 128 + mark)]

/-- The object identifier with these numbers. -/
def identifierOf : List Nat → List UInt8
  | a :: b :: rest => ((a * 40 + b) :: rest).flatMap fun n => writeGroups 0 (n + 1) n
  | _ => []

/-! ### Times -/

/-- The number of two decimal digits. -/
def twoDigits? (a b : UInt8) : Option Nat :=
  if Utf8.within 0x30 0x39 a && Utf8.within 0x30 0x39 b then
    some ((a.toNat - 0x30) * 10 + (b.toNat - 0x30))
  else none

/-- The numbers of pairs of decimal digits. -/
def digitPairs? : List UInt8 → Option (List Nat)
  | [] => some []
  | a :: b :: rest => do
    let n ← twoDigits? a b
    let more ← digitPairs? rest
    some (n :: more)
  | _ => none

/-- Whether a year has a day in February more than usual. -/
def isLeapYear (year : Nat) : Bool := year % 4 == 0 && (year % 100 != 0 || year % 400 == 0)

/-- The number of days of a month. -/
def daysInMonth (year month : Nat) : Nat :=
  if month = 2 then if isLeapYear year then 29 else 28
  else if month = 4 ∨ month = 6 ∨ month = 9 ∨ month = 11 then 30
  else 31

/-- Whether there is such a point in time. -/
def isMoment (year month day hour minute second : Nat) : Bool :=
  1 ≤ month && month ≤ 12 && 1 ≤ day && day ≤ daysInMonth year month
    && hour ≤ 23 && minute ≤ 59 && second ≤ 59

/-- Whether a content is a time with two digits for the year, in universal time. -/
def isShortTime (bytes : List UInt8) : Bool :=
  bytes.getLast? == some 0x5a && match digitPairs? bytes.dropLast with
    | some [y, month, day, hour, minute, second] =>
      isMoment (if y < 50 then 2000 + y else 1900 + y) month day hour minute second
    | _ => false

/-- Whether a content is a time with four digits for the year, in universal time. -/
def isLongTime (bytes : List UInt8) : Bool :=
  bytes.getLast? == some 0x5a && match digitPairs? bytes.dropLast with
    | some [century, y, month, day, hour, minute, second] =>
      isMoment (century * 100 + y) month day hour minute second
    | _ => false

/-- Whether an element is a point in time. -/
def Element.isTime (e : Element) : Bool :=
  (e.tag == .shortTime && isShortTime e.content) || (e.tag == .longTime && isLongTime e.content)

/-! ### Strings -/

/-- Whether a byte is a character of a printable string. -/
def isPrintableByte (b : UInt8) : Bool :=
  Utf8.within 0x41 0x5a b || Utf8.within 0x61 0x7a b || Utf8.within 0x30 0x39 b
    || [0x20, 0x27, 0x28, 0x29, 0x2b, 0x2c, 0x2d, 0x2e, 0x2f, 0x3a, 0x3d, 0x3f].contains b

/-- Whether a content is a printable string. -/
def isPrintableString (bytes : List UInt8) : Bool := bytes.all isPrintableByte

/-- Whether a content has ASCII characters only. -/
def isAscii (bytes : List UInt8) : Bool := bytes.all fun b => b.toNat < 0x80

/-- Whether a content has visible ASCII characters and spaces only. -/
def isVisible (bytes : List UInt8) : Bool := bytes.all (Utf8.within 0x20 0x7e)

/-- The text of code units of two bytes; pairs of surrogates are joined. -/
def utf16Text? : List UInt8 → Option (List Char)
  | [] => some []
  | a :: b :: rest =>
    let unit := a.toNat * 256 + b.toNat
    if unit < 0xd800 ∨ 0xe000 ≤ unit then (utf16Text? rest).map (Char.ofNat unit :: ·)
    else if 0xdc00 ≤ unit then none
    else match rest with
      | c :: d :: rest =>
        let second := c.toNat * 256 + d.toNat
        if 0xdc00 ≤ second ∧ second < 0xe000 then
          (utf16Text? rest).map
            (Char.ofNat (0x10000 + (unit - 0xd800) * 0x400 + (second - 0xdc00)) :: ·)
        else none
      | _ => none
  | _ => none

/-- The text of code points of four bytes. -/
def utf32Text? : List UInt8 → Option (List Char)
  | [] => some []
  | a :: b :: c :: d :: rest =>
    let n := ((a.toNat * 256 + b.toNat) * 256 + c.toNat) * 256 + d.toNat
    if n.isValidChar then (utf32Text? rest).map (Char.ofNat n :: ·) else none
  | _ => none

end PeerName.Der
