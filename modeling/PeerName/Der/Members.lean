import PeerName.Der.Primitive

/-!
# Members of a sequence

The members of a sequence are read from the front.  A member is either required, or it may be
missing, and then its tag tells whether it is there.  All members have to be read.  A member can be
enclosed in an element with a tag of its own, or it can have a tag of its own in the place of the
tag of its type.

* `Members` — a reading of the members in front, which leaves those behind;
* `required`, `optional` — the reading of one member;
* `Element.members?` — what the members of an element stand for;
* `Element.listOf?` — what they stand for when all are of one kind;
* `Element.enclosed?` — what the only member stands for.
-/

namespace PeerName.Der

/-- A reading of the members in front: what they stand for, and the members behind. -/
abbrev Members (α : Type) := StateT (List Element) Option α

/-- The next member, which has to be there. -/
def required {α : Type} (read : Element → Option α) : Members α := fun members =>
  match members with
  | [] => none
  | e :: rest => (read e).map fun a => (a, rest)

/-- The next member if its tag is the right one; otherwise it is missing. -/
def optional {α : Type} (fits : Tag → Bool) (read : Element → Option α) : Members (Option α) :=
  fun members => match members with
  | [] => some (none, [])
  | e :: rest =>
    if fits e.tag then (read e).map fun a => (some a, rest) else some (none, e :: rest)

/-- What members stand for when all of them are read. -/
def readAll {α : Type} (read : Members α) (members : List Element) : Option α :=
  match read members with
  | some (a, []) => some a
  | _ => none

namespace Element

/-- What the members of an element with this tag stand for. -/
def members? {α : Type} (tag : Tag) (read : Members α) (e : Element) : Option α :=
  (e.inside? tag).bind (readAll read)

/-- What the members of an element with this tag stand for, all of which are of one kind. -/
def listOf? {α : Type} (tag : Tag) (read : Element → Option α) (e : Element) : Option (List α) :=
  (e.inside? tag).bind fun members => members.mapM read

/-- What the only member of an element with this tag stands for. -/
def enclosed? {α : Type} (tag : Tag) (read : Element → Option α) (e : Element) : Option α :=
  e.members? tag (required read)

/-- The content of an element with this tag, if it has a form. -/
def formed? (tag : Tag) (form : List UInt8 → Bool) (e : Element) : Option (List UInt8) :=
  (e.content? tag).filter form

/-- The natural number below a bound that is the content of an element with this tag. -/
def natural? (tag : Tag) (bound : Nat) (e : Element) : Option Nat :=
  ((e.content? tag).bind Der.natural?).filter (· < bound)

end Element

/-- What an optional member with this tag and this form of content is: its content. -/
def optionalFormed (tag : Tag) (form : List UInt8 → Bool) : Members (Option (List UInt8)) :=
  optional (· == tag) (Element.formed? tag form)

end PeerName.Der
