/-!
# Elements of the distinguished encoding

Data are encoded as elements: a tag, the length of the content, and the content.  Tag and length
have one admissible form each.  A length below 128 is one byte; any other length is a count of at
most 126 bytes followed by the length itself without leading zeros.  A tag number below 31 stands
in the first byte; any other number follows in groups of seven bits without leading zeros and is
below 2³².

* `Tag`, `Element` — the parts of the encoding;
* `Element.read?` — the first element of a byte sequence, and the bytes behind it;
* `elements?` — the elements that a byte sequence is made of;
* `single?` — the element that a byte sequence is.
-/

namespace PeerName.Der

/-- A tag: its class with the mark of constructed content in three bits, and its number. -/
structure Tag where
  form : Nat
  number : Nat
  deriving DecidableEq

/-- The tag that is written as this one byte. -/
def Tag.ofByte (b : Nat) : Tag := ⟨b / 32, b % 32⟩

/-- An element: its tag and the bytes of its content. -/
structure Element where
  tag : Tag
  content : List UInt8
  deriving DecidableEq

/-- A number in groups of seven bits, all but the last marked, and the bytes behind it.  The first
group of the number must not be zero while others follow. -/
def readGroups (acc : Nat) : List UInt8 → Option (Nat × List UInt8)
  | [] => none
  | b :: rest =>
    if b.toNat < 0x80 then some (acc * 128 + b.toNat, rest)
    else if acc = 0 ∧ b.toNat = 0x80 then none
    else readGroups (acc * 128 + (b.toNat - 0x80)) rest

/-- The bound of tag numbers. -/
def tagBound : Nat := Nat.pow 2 32

/-- The tag at the beginning of a byte sequence, and the bytes behind it. -/
def readTag : List UInt8 → Option (Tag × List UInt8)
  | [] => none
  | b :: rest =>
    if b.toNat % 32 < 31 then some (.ofByte b.toNat, rest)
    else match readGroups 0 rest with
      | some (number, rest) =>
        if number < 31 ∨ tagBound ≤ number then none else some (⟨b.toNat / 32, number⟩, rest)
      | none => none

/-- The number that bytes stand for, the most significant one first. -/
def bigEndian (bytes : List UInt8) : Nat := bytes.foldl (fun n b => n * 256 + b.toNat) 0

/-- The greatest count of the bytes of a length; the next count is reserved. -/
def maxLengthBytes : Nat := 126

/-- The length at the beginning of a byte sequence, and the bytes behind it. -/
def readLength : List UInt8 → Option (Nat × List UInt8)
  | [] => none
  | b :: rest =>
    if b.toNat < 0x80 then some (b.toNat, rest)
    else
      let count := b.toNat - 0x80
      let digits := rest.take count
      let length := bigEndian digits
      if count = 0 ∨ maxLengthBytes < count ∨ digits.length < count then none
      else if digits.head? = some 0 ∨ length < 0x80 then none
      else some (length, rest.drop count)

/-- The first element of a byte sequence, and the bytes behind it. -/
def Element.read? (bytes : List UInt8) : Option (Element × List UInt8) := do
  let (tag, rest) ← readTag bytes
  let (length, rest) ← readLength rest
  let content := rest.take length
  if content.length < length then none
  else some (⟨tag, content⟩, rest.drop length)

/-- The elements of a byte sequence, of which there are at most `fuel`. -/
def elementsFrom : Nat → List UInt8 → Option (List Element)
  | _, [] => some []
  | 0, _ :: _ => none
  | fuel + 1, bytes => do
    let (e, rest) ← Element.read? bytes
    let more ← elementsFrom fuel rest
    some (e :: more)

/-- The elements that a byte sequence is made of. -/
def elements? (bytes : List UInt8) : Option (List Element) := elementsFrom bytes.length bytes

/-- The element that a byte sequence is. -/
def single? (bytes : List UInt8) : Option Element :=
  match Element.read? bytes with
  | some (e, []) => some e
  | _ => none

/-- The content of an element, if it has the tag. -/
def Element.content? (e : Element) (tag : Tag) : Option (List UInt8) :=
  if e.tag = tag then some e.content else none

/-- The elements inside an element, if it has the tag. -/
def Element.inside? (e : Element) (tag : Tag) : Option (List Element) := do
  let content ← e.content? tag
  elements? content

end PeerName.Der
