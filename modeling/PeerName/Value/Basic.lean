import PeerName.Number.Binary64

/-!
# Values

The names of a certificate, the hostname asked for, the settings and the extra data of a log
record come from callers that promise nothing about their kind.  A `Value` is plain data of any
kind: nothing, a truth value, a number, a text, bytes, a list, or a record of named values.  Things
with a behaviour of their own are no values, and the characters of a text are all there is in
Unicode besides the surrogates.

* `Value` — the type;
* `Value.isTruthy` — how a value is read where a truth value is expected;
* `Value.kind` — the name of a value's kind, for messages;
* `Value.elements?` — what a value holds when it is gone through one by one.
-/

namespace PeerName

/-- A value of any kind. -/
inductive Value where
  | null
  | bool (b : Bool)
  | int (n : Int)
  | real (x : Binary64)
  | text (s : String)
  | bytes (b : List UInt8)
  | list (items : List Value)
  | record (fields : List (String × Value))
  deriving Inhabited

namespace Value

/-- Null, false, zero and everything empty is false, all else is true. -/
def isTruthy : Value → Bool
  | null => false
  | bool b => b
  | int n => n != 0
  | real x => !x.isZero
  | text s => s != ""
  | bytes b => !b.isEmpty
  | list items => !items.isEmpty
  | record fields => !fields.isEmpty

/-- The name of a value's kind. -/
def kind : Value → String
  | null => "NoneType"
  | bool _ => "bool"
  | int _ => "int"
  | real _ => "float"
  | text _ => "str"
  | bytes _ => "bytes"
  | list _ => "list"
  | record _ => "dict"

/-- The members of a value: the characters of a text, the bytes of a byte sequence, the items of
a list and the names of a record.  The other kinds have none. -/
def elements? : Value → Option (List Value)
  | text s => some (s.toList.map fun c => text (String.singleton c))
  | bytes b => some (b.map fun x => int x.toNat)
  | list items => some items
  | record fields => some (fields.map fun f => text f.1)
  | null | bool _ | int _ | real _ => none

/-- The value of a text that may be absent. -/
def ofText? : Option String → Value
  | some s => text s
  | none => null

/-- The text that a value is, if it is one. -/
def text? : Value → Option String
  | text s => some s
  | _ => none

/-- The member of a list of named values that has a name. -/
def field? (fields : List (String × Value)) (name : String) : Option Value :=
  fields.lookup name

end Value

end PeerName
