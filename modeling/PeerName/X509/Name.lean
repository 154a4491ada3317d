import PeerName.Certificate.Basic
import PeerName.Der.Members
import PeerName.Number.Layout
import PeerName.Text.Quoted

/-!
# Distinguished names

The subject of a certificate is a sequence of sets of attributes; an attribute is an identifier
with a value.  The form of a name is checked when the certificate is read, but most values are
turned into text only when the name is looked at, and this can fail.

* `Name.ofElement?` — the name that an element encodes;
* `Attribute.resolve` — the value of an attribute, as text or as bits;
* `Name.resolve` — the values of all attributes;
* `Name.describe` — a name on one line, the last attribute first.
-/

namespace PeerName.X509

open Der (Element Tag)

/-- An attribute of a name, with the encoded value. -/
structure Attribute where
  /-- The content of the attribute's identifier. -/
  identifier : List UInt8
  value : Element
  deriving DecidableEq

/-- A name: a sequence of sets of attributes. -/
abbrev Name := List (List Attribute)

/-- Whether bytes come before others in the order of byte sequences, or are equal to them. -/
def bytesLe : List UInt8 → List UInt8 → Bool
  | [], _ => true
  | _ :: _, [] => false
  | a :: s, b :: t => a < b || (a == b && bytesLe s t)

/-- Whether every member is in order with the next one. -/
def isSorted : List (List UInt8) → Bool
  | a :: b :: rest => bytesLe a b && isSorted (b :: rest)
  | _ => true

/-- The byte sequences of the elements that a byte sequence is made of. -/
def encodedElements : Nat → List UInt8 → List (List UInt8)
  | 0, _ => []
  | fuel + 1, bytes =>
    match Element.read? bytes with
    | some (_, rest) =>
      bytes.take (bytes.length - rest.length) :: encodedElements fuel rest
    | none => []

/-- Whether the value of an attribute has the form that its string type prescribes; of the other
types nothing is asked at this point. -/
def isAttributeValue (e : Element) : Bool :=
  if e.tag = .printableString then Der.isPrintableString e.content
  else if e.tag = .bmpString then (Der.utf16Text? e.content).isSome
  else if e.tag = .universalString then (Der.utf32Text? e.content).isSome
  else true

/-- The attribute that an element encodes. -/
def Attribute.ofElement? (e : Element) : Option Attribute :=
  e.members? .sequence do
    let identifier ← Der.required (Element.formed? .identifier Der.isIdentifier)
    let value ← Der.required fun value => if isAttributeValue value then some value else none
    return ⟨identifier, value⟩

/-- The set of attributes that an element with this tag encodes; its members are in order. -/
def attributeSet? (tag : Tag) (e : Element) : Option (List Attribute) := do
  let content ← e.content? tag
  let members ← Der.elements? content
  if isSorted (encodedElements content.length content) then members.mapM Attribute.ofElement?
  else none

/-- The name that an element encodes. -/
def Name.ofElement? (e : Element) : Option Name := e.listOf? .sequence (attributeSet? .set)

/-! ### Values -/

/-- The value of an attribute. -/
inductive AttributeValue where
  | text (s : String)
  | bits (content : List UInt8)
  deriving DecidableEq

/-- The identifier of the common name. -/
def commonNameId : List UInt8 := [0x55, 0x04, 0x03]

/-- The identifier of the one attribute whose value is a bit string. -/
def uniqueIdentifierId : List UInt8 := [0x55, 0x04, 0x2d]

/-- The tags of values that are read. -/
def valueTags : List Tag :=
  [0x03, 0x04, 0x0c, 0x12, 0x13, 0x14, 0x16, 0x17, 0x18, 0x1a, 0x1c, 0x1e].map Tag.ofByte

/-- The text of a value whose tag is a string type: two-byte and four-byte characters for the two
types that have them, and UTF-8 for all others. -/
def stringText (e : Element) : Except Fault String :=
  let text := if e.tag = .bmpString then (Der.utf16Text? e.content).map String.ofList
    else if e.tag = .universalString then (Der.utf32Text? e.content).map String.ofList
    else Utf8.decode? e.content
  match text with
  | some s => .ok s
  | none => .error .malformed

/-- The value of an attribute. -/
def Attribute.resolve (a : Attribute) : Except Fault AttributeValue :=
  if !valueTags.contains a.value.tag then .error .malformed
  else if a.value.tag = .bitString then
    if a.identifier = uniqueIdentifierId then .ok (.bits a.value.content) else .error .notText
  else (stringText a.value).map .text

/-- An attribute with its value. -/
structure ResolvedAttribute where
  identifier : List UInt8
  value : AttributeValue
  deriving DecidableEq

/-- Whether no member occurs twice. -/
def allDistinct {α : Type} [DecidableEq α] : List α → Bool
  | [] => true
  | a :: rest => !rest.contains a && allDistinct rest

/-- The values of a set of attributes, which must not be empty and must not hold the same
attribute twice. -/
def resolveSet (set : List Attribute) : Except Fault (List ResolvedAttribute) := do
  let attributes ← set.mapM fun a => do return ⟨a.identifier, ← a.resolve⟩
  if attributes.isEmpty || !allDistinct attributes then .error .malformed
  else .ok attributes

/-- The values of all attributes of a name. -/
def Name.resolve (name : Name) : Except Fault (List (List ResolvedAttribute)) :=
  name.mapM resolveSet

/-- The values of the common names, in order. -/
def commonNames (sets : List (List ResolvedAttribute)) : List AttributeValue :=
  (sets.flatten.filter fun a => a.identifier == commonNameId).map (·.value)

/-! ### One-line form -/

/-- The short names of attributes. -/
def shortNames : List (List UInt8 × String) :=
  [([0x55, 0x04, 0x03], "CN"), ([0x55, 0x04, 0x07], "L"), ([0x55, 0x04, 0x08], "ST"),
   ([0x55, 0x04, 0x0a], "O"), ([0x55, 0x04, 0x0b], "OU"), ([0x55, 0x04, 0x06], "C"),
   ([0x55, 0x04, 0x09], "STREET"),
   ([0x09, 0x92, 0x26, 0x89, 0x93, 0xf2, 0x2c, 0x64, 0x01, 0x19], "DC"),
   ([0x09, 0x92, 0x26, 0x89, 0x93, 0xf2, 0x2c, 0x64, 0x01, 0x01], "UID")]

/-- The numbers of an identifier with dots between them. -/
def dotted (identifier : List UInt8) : String :=
  ".".intercalate ((Der.arcs identifier).map fun n => String.ofList (natText n))

/-- The name of an attribute: its short name, or its identifier. -/
def attributeName (identifier : List UInt8) : String :=
  (shortNames.lookup identifier).getD (dotted identifier)

/-- A character of a value; the characters that separate attributes are escaped. -/
def escapeValueChar (c : Char) : List Char :=
  if c.toNat = 0 then ['\\', '0', '0']
  else if c = '\\' ∨ c = Text.doubleMark ∨ c = '+' ∨ c = ',' ∨ c = ';' ∨ c = '<' ∨ c = '>' then
    ['\\', c]
  else [c]

/-- The text of a value: besides the separating characters, a number sign and a space in front
and a space behind are escaped. -/
def escapeValue (s : List Char) : List Char :=
  let body := s.flatMap escapeValueChar
  let front := if body.head? = some '#' ∨ (body.head? = some ' ' ∧ body.length ≠ 1)
    then '\\' :: body else body
  if front.getLast? = some ' ' then front.dropLast ++ ['\\', ' '] else front

/-- The text of a value; bits are shown in hexadecimal digits. -/
def AttributeValue.describe : AttributeValue → String
  | .text s => String.ofList (escapeValue s.toList)
  | .bits content =>
    if content.isEmpty then ""
    else String.ofList ('#' :: content.flatMap fun b => PeerName.Text.hexText 2 b.toNat)

/-- An attribute: its name, an equals sign and its value. -/
def ResolvedAttribute.describe (a : ResolvedAttribute) : String :=
  attributeName a.identifier ++ "=" ++ a.value.describe

/-- A name on one line: its sets from the last to the first with commas between them, the
attributes of a set with plus signs between them. -/
def describeSets (sets : List (List ResolvedAttribute)) : String :=
  ",".intercalate (sets.reverse.map fun set => "+".intercalate (set.map (·.describe)))

end PeerName.X509
