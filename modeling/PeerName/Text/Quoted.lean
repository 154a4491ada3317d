import PeerName.Number.Layout
import PeerName.Unicode.Category

/-!
# Quoted text

A text is quoted so that it can be shown inside a message: between two marks, with a backslash
before the mark and the backslash, with short escapes for line feed, carriage return and tab, and
with the code in hexadecimal digits for every other character that is not printable.  The mark is
the apostrophe, or the double quotation mark when the text holds an apostrophe and no double
quotation mark.  A text that is put together from numbers can hold the numbers of surrogates, which
are no characters; such a text is held as the list of its numbers.

* `quoteChars` — the quoted form of a text;
* `quoteBytes` — the quoted form of a sequence of bytes;
* `CodePoints`, `codePoints` — a text as the numbers of its characters.
-/

namespace PeerName.Text

/-- The apostrophe. -/
def apostrophe : Char := Char.ofNat 0x27

/-- The double quotation mark. -/
def doubleMark : Char := Char.ofNat 0x22

/-- A number in exactly `width` hexadecimal digits or more. -/
def hexText (width n : Nat) : List Char := zeroFill width (digitsOf 16 n)

/-- The form of one character between quotation marks `mark`. -/
def escapeChar (mark c : Char) : List Char :=
  if c = mark ∨ c = '\\' then ['\\', c]
  else if c = '\n' then ['\\', 'n']
  else if c = '\r' then ['\\', 'r']
  else if c = '\t' then ['\\', 't']
  else if Unicode.isPrintable c then [c]
  else if c.toNat < 0x100 then '\\' :: 'x' :: hexText 2 c.toNat
  else if c.toNat < 0x10000 then '\\' :: 'u' :: hexText 4 c.toNat
  else '\\' :: 'U' :: hexText 8 c.toNat

/-- The mark to put around a text. -/
def quoteMark (s : List Char) : Char :=
  if s.contains apostrophe && !s.contains doubleMark then doubleMark else apostrophe

/-- A text between marks. -/
def quoteChars (s : List Char) : List Char :=
  quoteMark s :: (s.flatMap (escapeChar (quoteMark s)) ++ [quoteMark s])

/-- A text between marks. -/
def quoted (s : String) : String := String.ofList (quoteChars s.toList)

/-- The form of one byte between quotation marks `mark`. -/
def escapeByte (mark : Char) (b : UInt8) : List Char :=
  let c := Char.ofNat b.toNat
  if b.toNat < 0x7f ∧ 0x20 ≤ b.toNat ∨ c = '\n' ∨ c = '\r' ∨ c = '\t' then escapeChar mark c
  else '\\' :: 'x' :: hexText 2 b.toNat

/-- A sequence of bytes between marks, with a small b in front. -/
def quoteBytes (bytes : List UInt8) : List Char :=
  let mark := quoteMark (bytes.map fun b => Char.ofNat b.toNat)
  'b' :: mark :: (bytes.flatMap (escapeByte mark) ++ [mark])

/-! ### Code points -/

/-- A text as the numbers of its characters; surrogates can stand among them. -/
abbrev CodePoints := List Nat

/-- The numbers of characters. -/
def codePoints (s : List Char) : CodePoints := s.map Char.toNat

/-- The numbers that are no code points. -/
def codePointBound : Nat := 0x110000

end PeerName.Text
