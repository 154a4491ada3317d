import PeerName.Text.Quoted
import PeerName.Value.Display

/-!
# Values as JSON text

A value is written on one line in printable ASCII: a comma or a colon is followed by one space,
and every character outside printable ASCII is escaped by its UTF-16 code units.  Bytes, which
JSON has no form for, are written as a text that holds their quoted form.

* `Json.encodeText` — a text between quotation marks;
* `Json.encodePoints` — a text that can hold surrogates;
* `Json.encodeObject` — an object of values that are written already;
* `Json.encode` — a value, as far as it can be written;
* `Json.copying`, `Json.encoding` — how values are gone through when they are written;
* `Json.hindrance?` — what keeps them from being written.
-/

namespace PeerName.Json

/-- An escape that names one UTF-16 code unit in four hexadecimal digits. -/
def unitEscape (n : Nat) : List Char := '\\' :: 'u' :: Text.hexText 4 n

/-- The escapes of a character: one UTF-16 code unit, or two beyond the first plane. -/
def charEscape (c : Char) : List Char :=
  if c.toNat < 0x10000 then unitEscape c.toNat
  else
    unitEscape (0xd800 + (c.toNat - 0x10000) / 0x400)
      ++ unitEscape (0xdc00 + (c.toNat - 0x10000) % 0x400)

/-- The form of a character inside a JSON text. -/
def encodeChar (c : Char) : List Char :=
  if c = Text.doubleMark then ['\\', Text.doubleMark]
  else if c = '\\' then ['\\', '\\']
  else if c = '\n' then ['\\', 'n']
  else if c = '\r' then ['\\', 'r']
  else if c = '\t' then ['\\', 't']
  else if c.toNat = 0x0c then ['\\', 'f']
  else if c.toNat = 0x08 then ['\\', 'b']
  else if 0x20 ≤ c.toNat ∧ c.toNat ≤ 0x7e then [c]
  else charEscape c

/-- A text between quotation marks. -/
def encodeText (s : List Char) : List Char :=
  Text.doubleMark :: (s.flatMap encodeChar ++ [Text.doubleMark])

/-- Whether a number is that of a surrogate. -/
def isSurrogate (n : Nat) : Bool := 0xd800 ≤ n && n ≤ 0xdfff

/-- A text between quotation marks that can hold surrogates; these are escaped one by one. -/
def encodePoints (s : Text.CodePoints) : List Char :=
  let body := s.flatMap fun n => if isSurrogate n then unitEscape n else encodeChar (Char.ofNat n)
  Text.doubleMark :: (body ++ [Text.doubleMark])

/-- The JSON form of a value that has no parts; lists and records are left to `encodeChars`. -/
def encodeLeaf : Value → List Char
  | .null => ['n', 'u', 'l', 'l']
  | .bool true => ['t', 'r', 'u', 'e']
  | .bool false => ['f', 'a', 'l', 's', 'e']
  | .int n => intText n
  | .real x => x.textWith ['I', 'n', 'f', 'i', 'n', 'i', 't', 'y'] ['N', 'a', 'N']
  | .text s => encodeText s.toList
  | .bytes b => encodeText (Text.quoteBytes b)
  | .list _ | .record _ => []

mutual

/-- The JSON form of a value. -/
def encodeChars : Value → List Char
  | .list items => '[' :: (encodeItems items ++ [']'])
  | .record fields => Char.ofNat 0x7b :: (encodeFields fields ++ [Char.ofNat 0x7d])
  | .null => encodeLeaf .null
  | .bool b => encodeLeaf (.bool b)
  | .int n => encodeLeaf (.int n)
  | .real x => encodeLeaf (.real x)
  | .text s => encodeLeaf (.text s)
  | .bytes b => encodeLeaf (.bytes b)

/-- The items of a list, with commas between them. -/
def encodeItems : List Value → List Char
  | [] => []
  | [v] => encodeChars v
  | v :: rest => encodeChars v ++ ',' :: ' ' :: encodeItems rest

/-- The names and values of a record, with commas between them. -/
def encodeFields : List (String × Value) → List Char
  | [] => []
  | [(name, v)] => encodeText name.toList ++ ':' :: ' ' :: encodeChars v
  | (name, v) :: rest =>
    encodeText name.toList ++ ':' :: ' ' :: encodeChars v ++ ',' :: ' ' :: encodeFields rest

end

/-- An object with these names and the JSON forms of its values. -/
def encodeObject (fields : List (String × List Char)) : List Char :=
  let one (f : String × List Char) := encodeText f.1.toList ++ ':' :: ' ' :: f.2
  Char.ofNat 0x7b :: (List.intercalate [',', ' '] (fields.map one) ++ [Char.ofNat 0x7d])

/-- The JSON text of a value. -/
def encode (v : Value) : String := String.ofList (encodeChars v)

/-- The pass by which values are copied before they are written. -/
def copying : Pass where
  leaf := 3
  node := 2
  digits := none
  work := ""

/-- The pass by which the copies are written. -/
def encoding [Limits] : Pass where
  leaf := 0
  node := 1
  digits := some Limits.digits
  work := " while encoding a JSON object"

/-- What keeps values from being written in an entry: they are copied first, and then the copies are
written. -/
def hindrance? [Limits] (values : List Value) : Option Mismatch :=
  (Value.itemsObstacle? copying (Limits.room .entry) values).or
    (Value.itemsObstacle? encoding (Limits.room .entry) values)

end PeerName.Json
