import PeerName.Text.Lines

/-!
# Paths

A path is a text that leads to a file by names with slashes between them.  Paths are cut and
normalized as texts, without looking at what they lead to.

* `Path.split`, `Path.parent` — the part before the last name, and that name;
* `Path.stem` — the last name without its last ending;
* `Path.normalize` — a path without empty names and without single dots;
* `Place` — where a path leads, by the names from the current directory or from the root;
* `Place.ofPath` — the place of a path when every double dot takes back the name before it.
-/

namespace PeerName.Storage

/-- The name of the directory itself. -/
def dot : List Char := ['.']

/-- The name of the directory above. -/
def dotDot : List Char := ['.', '.']

namespace Path

/-- A path without the slashes at its end; a path of slashes alone is left as it is. -/
def dropSlashes (s : List Char) : List Char :=
  if s.all (· == '/') then s else (s.reverse.dropWhile (· == '/')).reverse

/-- The part before the last slash, without the slashes at its end, and the part behind it. -/
def splitChars (s : List Char) : List Char × List Char :=
  let name := (s.reverse.takeWhile (· != '/')).reverse
  (dropSlashes (s.take (s.length - name.length)), name)

/-- The part before the last name, and that name. -/
def split (path : String) : String × String :=
  let parts := splitChars path.toList
  (String.ofList parts.1, String.ofList parts.2)

/-- The directory that a path leads into; it is empty if the path is a single name. -/
def parent (path : String) : String := (split path).1

/-- A name without its last ending, which begins at the last dot behind some other character. -/
def stemOf (name : List Char) : List Char :=
  let ending := (name.reverse.takeWhile (· != '.')).reverse
  let front := name.take (name.length - ending.length - 1)
  if ending.length = name.length || front.all (· == '.') then name else front

/-- The last name of a path without its last ending. -/
def stemChars (path : List Char) : List Char := stemOf (splitChars path).2

/-- The last name of a path without its last ending. -/
def stem (path : String) : String := String.ofList (stemChars path.toList)

/-- The names of a path, without the empty ones and single dots. -/
def names (s : List Char) : List (List Char) :=
  (Text.pieces '/' s).filter fun name => name ≠ [] && name ≠ dot

/-- How a path begins: with nothing, with a slash, or with exactly two slashes. -/
def root (s : List Char) : List Char :=
  let slashes := (s.takeWhile (· == '/')).length
  if slashes = 0 then [] else if slashes = 2 then ['/', '/'] else ['/']

/-- The path that these names form. -/
def ofNames (root : List Char) (names : List (List Char)) : List Char :=
  if root = [] ∧ names = [] then dot else root ++ List.intercalate ['/'] names

/-- A path without empty names and without single dots. -/
def normalize (path : String) : String :=
  String.ofList (ofNames (root path.toList) (names path.toList))

end Path

/-- A place in the tree of directories. -/
structure Place where
  /-- Whether the names lead from the root. -/
  absolute : Bool
  /-- The names, the last one first; double dots stand at the end only. -/
  reversed : List (List Char)
  deriving DecidableEq

namespace Place

/-- The current directory. -/
def current : Place := ⟨false, []⟩

/-- The place above. -/
def above (p : Place) : Place :=
  match p.reversed with
  | [] => if p.absolute then p else ⟨false, [dotDot]⟩
  | name :: rest =>
    if name = dotDot then ⟨p.absolute, dotDot :: name :: rest⟩ else ⟨p.absolute, rest⟩

/-- The place that a name leads to. -/
def step (p : Place) (name : List Char) : Place :=
  if name = [] ∨ name = dot then p
  else if name = dotDot then p.above
  else ⟨p.absolute, name :: p.reversed⟩

/-- The place at which a path begins. -/
def start (path : List Char) : Place := ⟨path.head? = some '/', []⟩

/-- The place of a path when every double dot takes back the name before it. -/
def ofPath (path : String) : Place :=
  (Path.names path.toList).foldl step (start path.toList)

/-- Whether the place is a directory whatever the tree holds: the current directory, one above
it, or the root. -/
def isGiven (p : Place) : Bool := p.reversed.all (· == dotDot)

/-- The path of a place, from the current directory or from the root. -/
def path (p : Place) : String :=
  String.ofList ((if p.absolute then ['/'] else []) ++ List.intercalate ['/'] p.reversed.reverse)

end Place

end PeerName.Storage
