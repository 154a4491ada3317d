import PeerName.Storage.Folder

/-!
# Log files that are set aside

A log file is not to grow beyond a size.  Before a line that would fill it, the file is set aside
under its name with a number behind it, and the line begins a new file.  What has been set aside
before moves on by one number, and the oldest file is removed.

Whether a line fills a file is told by its characters and the bytes that are there.

* `Place.older` — where a file has been set aside;
* `Folder.moveTo`, `Folder.clear` — moving what is at a place, and removing it;
* `Folder.setAside` — moving a file and those that have been set aside before;
* `Folder.addLine` — writing a line.
-/

namespace PeerName.Storage

/-- The size at which a log file is full, in bytes. -/
def fullSize : Nat := 10 * 1024 * 1024

/-- The number of files that are kept besides the log file. -/
def keptFiles : Nat := 5

/-- Where the file at a place is when it has been set aside so many times. -/
def Place.older (p : Place) (n : Nat) : Place :=
  match n, p.reversed with
  | 0, _ => p
  | _, [] => p
  | n, name :: above => ⟨p.absolute, (name ++ '.' :: natText n) :: above⟩

namespace Folder

/-- The tree at a place. -/
def treeAt (f : Folder) (p : Place) : Option Tree :=
  (if p.absolute then f.far else f.near).find? p.reversed.reverse

/-- Moves what is at a place to another one. -/
def moveTo (f : Folder) (p q : Place) : Except Cause Folder :=
  if maxPathLength < byteLength (f.fullName q).toList ∨ isTooLong (q.reversed.headD []) then
    .error .nameTooLong
  else match f.treeAt p with
    | none => .error .missing
    | some t => .ok ((f.removeAt p).change q (Tree.plant t q.reversed.reverse))

/-- Removes the file at a place, if there is one. -/
def clear (f : Folder) (p : Place) : Except Cause Folder :=
  match f.entryAt p with
  | none => .ok f
  | some .directory => .error .isDirectory
  | some (.file _) => .ok (f.removeAt p)

/-- Moves the file that has been set aside so many times on by one. -/
def moveOn (f : Folder) (p : Place) (n : Nat) : Except Cause Folder :=
  if (f.entryAt (p.older n)).isSome then do
    let f ← f.clear (p.older (n + 1))
    f.moveTo (p.older n) (p.older (n + 1))
  else .ok f

/-- Sets the file at a place aside, and moves on those that have been set aside fewer times than
this, the oldest first, as far as that succeeds. -/
def setAside (p : Place) : Nat → Folder → Folder × Except Cause Unit
  | 0, f => (f, .ok ())
  | n + 1, f =>
    match f.moveOn p n with
    | .error cause => (f, .error cause)
    | .ok f => setAside p n f

/-- Whether a line fills the file at a place. -/
def Fills (f : Folder) (p : Place) (line : String) : Prop :=
  fullSize ≤ (f.contentAt p).length + line.length

instance (f : Folder) (p : Place) (line : String) : Decidable (f.Fills p line) :=
  inferInstanceAs (Decidable (_ ≤ _))

/-- Writes a line to the end of the file at a place, which is set aside before if the line fills
it. -/
def addLine (f : Folder) (p : Place) (line : String) : Folder × Except Cause Unit :=
  match if f.Fills p line then setAside p keptFiles f else (f, .ok ()) with
  | (f, .error cause) => (f, .error cause)
  | (f, .ok _) => (f.append p (Utf8.encode line), .ok ())

end Folder

end PeerName.Storage
