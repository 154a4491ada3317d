/-!
# Trees of files

A tree is a file with its content, or a directory with named trees below it.

* `Entry` — what a name stands for, without what is below it;
* `Tree` — the tree;
* `Tree.find?` — the tree that names lead to;
* `Tree.insert`, `Tree.erase` — a tree with an entry more or less;
* `Tree.plant` — a tree with another tree in it;
* `Tree.entries` — all entries with the names that lead to them.
-/

namespace PeerName.Storage

/-- A file with its content, or a directory. -/
inductive Entry where
  | file (content : List UInt8)
  | directory
  deriving DecidableEq

/-- A file with its content, or a directory with what is below it. -/
inductive Tree where
  | file (content : List UInt8)
  | directory (children : List (List Char × Tree))

namespace Tree

/-- The directory with nothing below it. -/
def empty : Tree := directory []

/-- A tree without what is below it. -/
def entry : Tree → Entry
  | file content => .file content
  | directory _ => .directory

/-- The named trees below a tree. -/
def children : Tree → List (List Char × Tree)
  | file _ => []
  | directory children => children

/-- The tree that names lead to. -/
def find? (t : Tree) : List (List Char) → Option Tree
  | [] => some t
  | name :: rest =>
    match t.children.lookup name with
    | some child => child.find? rest
    | none => none

/-- Gives a name a tree. -/
def setChild (name : List Char) (t : Tree) :
    List (List Char × Tree) → List (List Char × Tree)
  | [] => [(name, t)]
  | (other, old) :: rest =>
    if other = name then (name, t) :: rest else (other, old) :: setChild name t rest

/-- The tree in which names lead to an entry; the directories on the way are made if they are
missing. -/
def insert (e : Entry) : List (List Char) → Tree → Tree
  | [], t =>
    match e with
    | .file content => file content
    | .directory => directory t.children
  | name :: rest, t =>
    directory
      (setChild name (insert e rest ((t.children.lookup name).getD empty)) t.children)

/-- The tree in which names lead to another tree; the directories on the way are made if they are
missing. -/
def plant (new : Tree) : List (List Char) → Tree → Tree
  | [], _ => new
  | name :: rest, t =>
    directory (setChild name (plant new rest ((t.children.lookup name).getD empty)) t.children)

/-- The tree in which names no longer lead anywhere. -/
def erase : List (List Char) → Tree → Tree
  | [], t => t
  | name :: rest, t =>
    if rest = [] then directory (t.children.filter fun child => child.1 != name)
    else match t.children.lookup name with
      | some child => directory (setChild name (erase rest child) t.children)
      | none => t

mutual

/-- All entries below names, with the names that lead to them, the last name first. -/
def entriesFrom (above : List (List Char)) : Tree → List (List (List Char) × Entry)
  | file content => [(above, .file content)]
  | directory children => (above, .directory) :: childEntries above children

/-- The entries of named trees. -/
def childEntries (above : List (List Char)) :
    List (List Char × Tree) → List (List (List Char) × Entry)
  | [] => []
  | (name, t) :: rest => entriesFrom (name :: above) t ++ childEntries above rest

end

/-- All entries, with the names that lead to them, the last name first. -/
def entries (t : Tree) : List (List (List Char) × Entry) := entriesFrom [] t

end Tree

end PeerName.Storage
