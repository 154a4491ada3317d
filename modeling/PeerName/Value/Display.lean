import PeerName.Text.Quoted
import PeerName.Value.Mismatch

/-!
# The text of a value

A value is shown in two ways.  The quoted form puts marks around a text and escapes what is not
printable, so that it can stand inside a message; the plain form of a text is the text itself.
Inside lists and records all texts are quoted.

Not every value can be shown.  A number must not have too many digits, and going through lists and
records takes calls within calls, for which there is only so much room.  How many digits are too
many, and how much room there is at a place of the program, is a matter of the surroundings.

* `Value.quotedChars`, `Value.quoted` — the quoted form, as far as it exists;
* `Value.plain` — the plain form;
* `Desk`, `Limits` — the places at which values are written out, and the limits to this;
* `Value.obstacle?` — what is in the way when a value is gone through;
* `Desk.hindrance?` — what keeps values from being written out;
* `Desk.write` — a text that shows values, if they can be written out.
-/

namespace PeerName

namespace Value

/-- The quoted form of a value that has no parts; lists and records are left to
`quotedChars`. -/
def quotedLeaf : Value → List Char
  | null => ['N', 'o', 'n', 'e']
  | bool true => ['T', 'r', 'u', 'e']
  | bool false => ['F', 'a', 'l', 's', 'e']
  | int n => intText n
  | real x => x.text
  | text s => Text.quoteChars s.toList
  | bytes b => Text.quoteBytes b
  | list _ | record _ => []

mutual

/-- The quoted form of a value. -/
def quotedChars : Value → List Char
  | list items => '[' :: (quotedItems items ++ [']'])
  | record fields => Char.ofNat 0x7b :: (quotedFields fields ++ [Char.ofNat 0x7d])
  | null => quotedLeaf null
  | bool b => quotedLeaf (bool b)
  | int n => quotedLeaf (int n)
  | real x => quotedLeaf (real x)
  | text s => quotedLeaf (text s)
  | bytes b => quotedLeaf (bytes b)

/-- The quoted forms of the items of a list, with commas between them. -/
def quotedItems : List Value → List Char
  | [] => []
  | [v] => quotedChars v
  | v :: rest => quotedChars v ++ ',' :: ' ' :: quotedItems rest

/-- The quoted names and values of a record, with commas between them. -/
def quotedFields : List (String × Value) → List Char
  | [] => []
  | [(name, v)] => Text.quoteChars name.toList ++ ':' :: ' ' :: quotedChars v
  | (name, v) :: rest =>
    Text.quoteChars name.toList ++ ':' :: ' ' :: quotedChars v ++ ',' :: ' ' :: quotedFields rest

end

/-- The quoted form of a value.  Whether it can be written out is for `Desk.hindrance?` to say. -/
def quoted (v : Value) : String := String.ofList v.quotedChars

/-- The plain form of a value: a text is its own form, everything else is quoted. -/
def plain : Value → String
  | text s => s
  | v => v.quoted

end Value

/-! ### Values that cannot be shown -/

/-- The places of the program at which values of any kind are written out. -/
inductive Desk where
  /-- A decision is reported. -/
  | verifier
  /-- The names of a certificate are compared with the host. -/
  | names
  /-- A fault that ended a decision is put into words. -/
  | fault
  /-- A fault of a session is put into words. -/
  | session
  /-- A result or an issue is put into words. -/
  | summary
  /-- A setting is read. -/
  | settings
  /-- The message of a log record is put together. -/
  | message
  /-- An entry for machines is put together. -/
  | entry
  deriving DecidableEq

/-- What the surroundings of the program allow for writing values out. -/
class Limits where
  /-- The most digits of a number. -/
  digits : Nat
  /-- The calls that can lie within one another at a desk. -/
  room : Desk → Nat
  /-- There is room for what the program itself has to write. -/
  ample : ∀ desk, 8 ≤ room desk

/-- The limits that are in force unless somebody changes them, for a program that is not itself
called from far below. -/
@[reducible]
def Limits.usual : Limits where
  digits := 4300
  room _ := 980
  ample _ := by decide

/-- A way to go through a value and all its parts. -/
structure Pass where
  /-- The calls that a value without parts takes. -/
  leaf : Nat
  /-- The calls that a list or a record takes besides those for its parts. -/
  node : Nat
  /-- The most digits of a number, if they matter. -/
  digits : Option Nat
  /-- The words for what is being done. -/
  work : String

/-- The lack of room for so many calls. -/
def Pass.shortage? (pass : Pass) (room calls : Nat) : Option Mismatch :=
  if room < calls then some (.tooDeep pass.work) else none

/-- The excess of digits in a number. -/
def Pass.excess? (pass : Pass) (n : Int) : Option Mismatch :=
  pass.digits.bind fun most =>
    if Nat.pow 10 most ≤ n.natAbs then some (.tooManyDigits most) else none

namespace Value

mutual

/-- What is in the way when a value is gone through with so much room: the first thing that a pass
comes upon. -/
def obstacle? (pass : Pass) (room : Nat) : Value → Option Mismatch
  | list items =>
    (pass.shortage? room pass.node).or (itemsObstacle? pass (room - pass.node) items)
  | record fields =>
    (pass.shortage? room pass.node).or (fieldsObstacle? pass (room - pass.node) fields)
  | int n => (pass.shortage? room pass.leaf).or (pass.excess? n)
  | null => pass.shortage? room pass.leaf
  | bool _ => pass.shortage? room pass.leaf
  | real _ => pass.shortage? room pass.leaf
  | text _ => pass.shortage? room pass.leaf
  | bytes _ => pass.shortage? room pass.leaf

/-- What is in the way when the items of a list are gone through in order. -/
def itemsObstacle? (pass : Pass) (room : Nat) : List Value → Option Mismatch
  | [] => none
  | v :: rest => (obstacle? pass room v).or (itemsObstacle? pass room rest)

/-- What is in the way when the names and values of a record are gone through in order. -/
def fieldsObstacle? (pass : Pass) (room : Nat) : List (String × Value) → Option Mismatch
  | [] => none
  | (_, v) :: rest =>
    (pass.shortage? room pass.leaf).or
      ((obstacle? pass room v).or (fieldsObstacle? pass room rest))

end

end Value

section Limits

variable [Limits]

/-- The pass by which a value is quoted. -/
def Pass.quoting : Pass where
  leaf := 1
  node := 1
  digits := some Limits.digits
  work := " while getting the repr of an object"

namespace Desk

/-- What keeps values from being written out at a desk. -/
def hindrance? (desk : Desk) (values : List Value) : Option Mismatch :=
  Value.itemsObstacle? .quoting (Limits.room desk) values

/-- A text that shows these values, if they can be written out. -/
def write (desk : Desk) (values : List Value) (text : String) : Except Mismatch String :=
  match desk.hindrance? values with
  | some cause => .error cause
  | none => .ok text

/-- There is always room for a value without parts. -/
theorem shortage?_leaf (desk : Desk) :
    Pass.quoting.shortage? (Limits.room desk) Pass.quoting.leaf = none := by
  have hone : 1 ≤ Limits.room desk := Nat.le_trans (by decide) (Limits.ample desk)
  exact if_neg (Nat.not_lt.mpr hone)

/-- A text can always be written out. -/
@[simp]
theorem hindrance?_text (desk : Desk) (s : String) (values : List Value) :
    desk.hindrance? (.text s :: values) = desk.hindrance? values := by
  rw [hindrance?, Value.itemsObstacle?, Value.obstacle?, shortage?_leaf, Option.none_or,
    hindrance?]

@[simp]
theorem hindrance?_nil (desk : Desk) : desk.hindrance? [] = none := rfl

end Desk

end Limits

end PeerName
