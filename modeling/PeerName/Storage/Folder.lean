import PeerName.Number.Layout
import PeerName.Storage.Path
import PeerName.Storage.Tree
import PeerName.Text.Quoted
import PeerName.Text.Utf8

/-!
# Folders

A folder is the tree of files and directories that a program sees from its current directory.
Following a path asks at every name whether there is a directory to look it up in.

* `Folder` — the tree;
* `Storage.Fault` — why an operation on it failed;
* `Folder.find` — what a path leads to;
* `Folder.read`, `Folder.write`, `Folder.append`, `Folder.remove` — operations on files;
* `Folder.makeDirectories`, `Folder.ensureParent` — two ways to make a directory with those above
  it.
-/

namespace PeerName.Storage

/-- What is wrong with a path. -/
inductive Cause where
  | missing
  | present
  | notDirectory
  | isDirectory
  | nameTooLong
  deriving DecidableEq

/-- The number and the words of a cause. -/
def Cause.text : Cause → String
  | missing => "[Errno 2] No such file or directory"
  | present => "[Errno 17] File exists"
  | notDirectory => "[Errno 20] Not a directory"
  | isDirectory => "[Errno 21] Is a directory"
  | nameTooLong => "[Errno 36] File name too long"

/-- Why an operation failed. -/
inductive Fault where
  /-- The path does not lead to what was asked for. -/
  | atPath (cause : Cause) (path : String)
  /-- The path holds a zero character. -/
  | zeroCharacter
  /-- Too many directories are missing above the one that was asked for. -/
  | tooDeep
  deriving DecidableEq

/-- The report of a fault. -/
def Fault.message : Fault → String
  | atPath cause path => cause.text ++ ": " ++ Text.quoted path
  | zeroCharacter => "embedded null byte"
  | tooDeep => "maximum recursion depth exceeded"

/-- The tree of files and directories around the current directory. -/
structure Folder where
  /-- The full name of the current directory, for messages. -/
  home : String
  /-- What is below the current directory, and below those above it: each directory above is found
  under the name of two dots. -/
  near : Tree := .empty
  /-- What is below the root. -/
  far : Tree := .empty

/-- The longest name in bytes. -/
def maxNameLength : Nat := 255

/-- The longest path in bytes. -/
def maxPathLength : Nat := 4095

/-- The most directories that are made at once. -/
def maxMissing : Nat := 985

/-- The length of a text in bytes. -/
def byteLength (s : List Char) : Nat := s.foldl (fun n c => n + c.utf8Size) 0

/-- Whether a name is too long. -/
def isTooLong (name : List Char) : Bool := maxNameLength < byteLength name

/-- What makes a text unfit to be a path: it holds a zero character, or it is too long. -/
def pathFault? (path : String) : Option Fault :=
  if path.toList.contains (Char.ofNat 0) then some .zeroCharacter
  else if maxPathLength < byteLength path.toList then some (.atPath .nameTooLong path)
  else none

namespace Folder

/-- What a place holds. -/
def entryAt (f : Folder) (p : Place) : Option Entry :=
  if p.isGiven then some .directory
  else ((if p.absolute then f.far else f.near).find? p.reversed.reverse).map (·.entry)

/-- Changes the tree that a place belongs to. -/
def change (f : Folder) (p : Place) (g : Tree → Tree) : Folder :=
  if p.absolute then { f with far := g f.far } else { f with near := g f.near }

/-- Follows names from a place. -/
def follow (f : Folder) (p : Place) : List (List Char) → Except Cause Place
  | [] => .ok p
  | name :: rest =>
    match f.entryAt p with
    | none => .error .missing
    | some (.file _) => .error .notDirectory
    | some .directory => if isTooLong name then .error .nameTooLong else follow f (p.step name) rest

/-- The place that a path leads to. -/
def place (f : Folder) (path : List Char) : Except Cause Place :=
  if path = [] then .error .missing else follow f (.start path) (Text.pieces '/' path)

/-- What a path leads to. -/
def find (f : Folder) (path : String) : Except Fault (Place × Entry) :=
  match pathFault? path with
  | some fault => .error fault
  | none =>
    match f.place path.toList with
    | .error cause => .error (.atPath cause path)
    | .ok p =>
      match f.entryAt p with
      | some e => .ok (p, e)
      | none => .error (.atPath .missing path)

/-- Whether a path leads to something. -/
def holds (f : Folder) (path : String) : Bool := (f.find path).isOk

/-- Whether a path leads to a directory. -/
def isDirectory (f : Folder) (path : String) : Bool :=
  match f.find path with
  | .ok (_, .directory) => true
  | _ => false

/-- The content of the file that a path leads to. -/
def read (f : Folder) (path : String) : Except Fault (List UInt8) :=
  match f.find path with
  | .ok (_, .file content) => .ok content
  | .ok (_, .directory) => .error (.atPath .isDirectory path)
  | .error e => .error e

/-- Gives a place a new entry. -/
def put (f : Folder) (p : Place) (e : Entry) : Folder :=
  f.change p (Tree.insert e p.reversed.reverse)

/-- The place that the names of a path before the last one lead to, and the last name.  A path
without names is reported by `last`. -/
def parentPlace (f : Folder) (path : List Char) (last : Cause) :
    Except Cause (Place × List Char) := do
  let body := Path.dropSlashes path
  if body = [] then throw .missing
  if body.all (· == '/') then throw last
  let names := Text.pieces '/' body
  let parent ← f.follow (.start body) names.dropLast
  return (parent, names.getLastD [])

/-- The place at which a path would make a new entry: the directory that it leads into exists.
A path that ends with a dot or two makes nothing, and is reported by `last`. -/
def newPlace (f : Folder) (path : List Char) (last : Cause) : Except Cause Place := do
  let (parent, name) ← f.parentPlace path last
  let p ← f.follow parent [name]
  if name = dot ∨ name = dotDot then throw last
  return p

/-- The place of a new file: besides, the path does not end with a slash. -/
def newFilePlace (f : Folder) (path : List Char) : Except Cause Place := do
  if path.getLast? = some '/' then
    let _ ← f.parentPlace path .isDirectory
    throw .isDirectory
  let p ← f.newPlace path .isDirectory
  if f.entryAt p = some .directory then throw .isDirectory
  return p

/-- The place of the file that is opened for writing under a path. -/
def writePlace (f : Folder) (path : String) : Except Fault Place :=
  match pathFault? path with
  | some fault => .error fault
  | none => (f.newFilePlace path.toList).mapError fun cause => .atPath cause path

/-- Gives the file under a path a new content; the file is made if there is none. -/
def write (f : Folder) (path : String) (content : List UInt8) : Except Fault Folder := do
  let p ← f.writePlace path
  return f.put p (.file content)

/-- The content of the file at a place; there is none unless the place holds a file. -/
def contentAt (f : Folder) (p : Place) : List UInt8 :=
  match f.entryAt p with
  | some (.file content) => content
  | _ => []

/-- Adds to the end of the file at a place. -/
def append (f : Folder) (p : Place) (content : List UInt8) : Folder :=
  f.put p (.file (f.contentAt p ++ content))

/-- The full name of a place. -/
def fullName (f : Folder) (p : Place) : String :=
  if p.absolute then p.path
  else if p.reversed = [] then f.home else f.home ++ "/" ++ p.path

/-- Opens the file at a place for adding to its end; the file is made if there is none. -/
def openAt (f : Folder) (p : Place) : Except Fault Folder :=
  if maxPathLength < byteLength (f.fullName p).toList then
    .error (.atPath .nameTooLong (f.fullName p))
  else if f.entryAt p = some .directory then .error (.atPath .isDirectory (f.fullName p))
  else match f.entryAt p.above with
    | none => .error (.atPath .missing (f.fullName p))
    | some (.file _) => .error (.atPath .notDirectory (f.fullName p))
    | some .directory =>
      if isTooLong (p.reversed.headD []) then .error (.atPath .nameTooLong (f.fullName p))
      else .ok (f.append p [])

/-- Removes the entry at a place. -/
def removeAt (f : Folder) (p : Place) : Folder := f.change p (Tree.erase p.reversed.reverse)

/-- Removes the file under a path. -/
def remove (f : Folder) (path : String) : Except Fault Folder := do
  match ← f.find path with
  | (p, .file _) => return f.removeAt p
  | (_, .directory) => throw (.atPath .isDirectory path)

/-! ### Directories -/

/-- Makes one directory. -/
def makeDirectory (f : Folder) (path : String) : Except Fault Folder :=
  match pathFault? path with
  | some fault => .error fault
  | none =>
    match f.newPlace path.toList .present with
    | .error cause => .error (.atPath cause path)
    | .ok p =>
      if (f.entryAt p).isSome then .error (.atPath .present path) else .ok (f.put p .directory)

/-- Makes one directory unless the path leads to one already. -/
def makeMissing (f : Folder) (path : String) : Folder × Except Fault Unit :=
  match f.makeDirectory path with
  | .ok f => (f, .ok ())
  | .error e => if f.isDirectory path then (f, .ok ()) else (f, .error e)

/-- The part of a path before its last name, and that name, where slashes at the end do not
count. -/
def splitLast (path : String) : String × String :=
  let parts := Path.split path
  if parts.2 = "" then Path.split parts.1 else parts

/-- Makes the directory under a path and the missing ones above it, of which there may be only so
many.  That something is in the place of a directory above is no obstacle by itself: it shows when
the next directory is made. -/
def makeDirectoriesWithin : Nat → Folder → String → Folder × Except Fault Unit
  | 0, f, _ => (f, .error .tooDeep)
  | room + 1, f, path =>
    let (head, tail) := splitLast path
    let last (f : Folder) := if tail = "." then (f, .ok ()) else f.makeMissing path
    if head ≠ "" ∧ tail ≠ "" ∧ !f.holds head then
      match makeDirectoriesWithin room f head with
      | (f, .ok _) => last f
      | (f, .error (.atPath .present _)) => last f
      | (f, .error e) => (f, .error e)
    else f.makeMissing path

/-- Makes the directory under a path and the missing ones above it. -/
def makeDirectories (f : Folder) (path : String) : Folder × Except Fault Unit :=
  makeDirectoriesWithin maxMissing f path

/-- Makes the directory with these names, and those above it when it turns out that they are
missing, of which there may be only so many; the names are given the last one first. -/
def ensureNames (root : List Char) :
    Nat → List (List Char) → Folder → Folder × Except Fault Unit
  | 0, _, f => (f, .error .tooDeep)
  | _ + 1, [], f => f.makeMissing (String.ofList (Path.ofNames root []))
  | room + 1, name :: above, f =>
    let path := String.ofList (Path.ofNames root (name :: above).reverse)
    match f.makeDirectory path with
    | .ok f => (f, .ok ())
    | .error (.atPath .missing _) =>
      match ensureNames root room above f with
      | (f, .error e) => (f, .error e)
      | (f, .ok _) => f.makeMissing path
    | .error e => if f.isDirectory path then (f, .ok ()) else (f, .error e)

/-- Makes sure that the directory that a path leads into exists. -/
def ensureParent (f : Folder) (path : String) : Folder × Except Fault Unit :=
  ensureNames (Path.root path.toList) maxMissing ((Path.names path.toList).dropLast.reverse) f

/-! ### Contents -/

/-- Puts an entry under a path, with the directories above it, where paths are taken as they
are written. -/
def give (f : Folder) (path : String) (e : Entry) : Folder :=
  let p := Place.ofPath path
  if p.isGiven then f else f.put p e

/-- All entries with their places, those of a directory behind the directory. -/
def entries (f : Folder) : List (Place × Entry) :=
  (f.near.entries.map fun (names, e) => (⟨false, names⟩, e))
    ++ f.far.entries.map fun (names, e) => (⟨true, names⟩, e)

/-- The files below the current directory, with their paths. -/
def files (f : Folder) : List (String × List UInt8) :=
  f.near.entries.filterMap fun (names, e) =>
    match e with
    | .file content =>
      if names.contains dotDot then none else some ((⟨false, names⟩ : Place).path, content)
    | .directory => none

end Folder

end PeerName.Storage
