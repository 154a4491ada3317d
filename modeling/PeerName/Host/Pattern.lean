import PeerName.Text.Lines
import PeerName.Unicode.Casing
import PeerName.Value.Mismatch

/-!
# Names and patterns

A host name is a sequence of labels joined by dots.  A name that is empty, or in which some
label is empty, has no labels at all: it names nothing.  Names are compared after the twenty-six
ASCII capitals have been made small; no other character has a case here.

A certificate names hosts by patterns.  A pattern covers the host that it spells, and a pattern
whose first label is a star followed by at least two more labels covers every host that has some
label in the place of the star.  Everywhere else a star is an ordinary character, and a host name
that holds one is covered by nothing, so no other star ever stands for anything.

* `Host.fold`, `Host.normalize` — the small-letter form of a name;
* `Host.splitDots` — the pieces between the dots;
* `Host.labels?`, `Host.splitLabels` — the labels, if there are any;
* `Host.normalizeValue`, `Host.splitValue` — the same for values of any kind;
* `Host.isWildcard` — whether the first label of a pattern stands for any label;
* `Host.covers` — whether a pattern covers a host;
* `Host.coversValue` — the same for values of any kind, of which only texts are names;
* `Host.firstCovering` — the first pattern of a list that covers a host.
-/

namespace PeerName.Host

/-! ### Labels -/

/-- Makes the ASCII capitals of a name small. -/
def fold (s : List Char) : List Char := s.map Unicode.lowerAscii

/-- Makes the ASCII capitals of a name small. -/
def normalize (name : String) : String := String.ofList (fold name.toList)

/-- The pieces between the dots. -/
def splitDots (s : List Char) : List (List Char) := Text.pieces '.' s

/-- The labels of a name, or nothing if one of them is empty. -/
def labels? (s : List Char) : Option (List (List Char)) :=
  if (splitDots s).any List.isEmpty then none else some (splitDots s)

/-- The labels of a name, or nothing if one of them is empty. -/
def splitLabels (name : String) : Option (List String) :=
  (labels? name.toList).map fun labels => labels.map String.ofList

/-- The small-letter form of a value, which has to be a text. -/
def normalizeValue : Value → Except Mismatch String
  | .text s => .ok (normalize s)
  | .bytes _ => .error (.bytesNeeded "dict")
  | v => .error (.noMember v.kind "translate")

/-- The labels of a value, which has to be a text or be read as false. -/
def splitValue (v : Value) : Except Mismatch (Option (List String)) :=
  if !v.isTruthy then .ok none
  else match v with
    | .text s => .ok (splitLabels s)
    | .bytes _ => .error (.bytesNeeded "str")
    | v => .error (.noMember v.kind "split")

/-! ### Patterns -/

/-- The label that can stand for any label. -/
def star : List Char := ['*']

/-- How many labels have to follow a star. -/
def minLabelsAfterStar : Nat := 2

/-- Whether labels begin with a star that stands for any label. -/
def startsWithStar : List (List Char) → Bool
  | [] => false
  | first :: rest => first == star && minLabelsAfterStar ≤ rest.length

/-- Whether a pattern begins with a star that stands for any label. -/
def isWildcard (pattern : String) : Bool :=
  match labels? (fold pattern.toList) with
  | some labels => startsWithStar labels
  | none => false

/-- The labels of a host name; a name with a star has none. -/
def hostLabels? (host : List Char) : Option (List (List Char)) :=
  if host.contains '*' then none else labels? (fold host)

/-- Whether the labels of a pattern cover those of a host, label by label. -/
def coversLabels (wildcards : Bool) (pattern host : List (List Char)) : Bool :=
  pattern.length == host.length &&
    if wildcards && startsWithStar pattern then pattern.drop 1 == host.drop 1
    else pattern == host

/-- Whether a pattern covers a host; malformed names cover nothing and are not covered. -/
def covers (wildcards : Bool) (pattern host : String) : Bool :=
  match labels? (fold pattern.toList), hostLabels? host.toList with
  | some p, some h => coversLabels wildcards p h
  | _, _ => false

/-- Whether a value is a pattern; only a text can be one. -/
def isWildcardValue : Value → Bool
  | .text s => isWildcard s
  | _ => false

/-- Whether one value covers another; only texts do. -/
def coversValue (wildcards : Bool) : Value → Value → Bool
  | .text pattern, .text host => covers wildcards pattern host
  | _, _ => false

/-- The first of the patterns that covers the host. -/
def firstCovering (wildcards : Bool) (patterns : List Value) (host : Value) : Option Value :=
  patterns.find? fun pattern => coversValue wildcards pattern host

end PeerName.Host
