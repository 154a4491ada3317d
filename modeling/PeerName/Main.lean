import PeerName.CommandLine.Run
import PeerName.Journal.Calendar
import Std.Time.DateTime.Timestamp

/-!
# The program

The program takes up the files that its command line names, runs the command line on them, writes
back what has changed, and shows the report and the complaints.  A run looks at few files: those
that the command line names, the log file that the settings name, and the files that this has been
set aside as.  They are known before the run, so that their part of the tree can be taken up
beforehand.

* `Request.paths`, `Request.logPaths` — the paths that a command line names, and those of the log
  file and its older copies;
* `ancestry` — a path and the paths of the directories above it.
-/

namespace PeerName.CommandLine

/-- The paths that a request names. -/
def Request.paths (r : Request) : List String :=
  (r.cert.toList ++ r.config.toList ++ r.writeDefault.toList).filter (· != "")

/-- The path of the log file that the settings of a request name, and the paths under which it has
been set aside, given the tree with the settings file. -/
def Request.logPaths [Limits] (r : Request) (folder : Storage.Folder) : List String :=
  match r.config with
  | none => []
  | some path =>
    match (Settings.load folder path).outcome with
    | .ok s =>
      if s.logFile = "" then []
      else (List.range (Storage.keptFiles + 1)).map fun n =>
        ((Storage.Place.ofPath s.logFile).older n).path
    | .error _ => []

/-- A place and the places above it, the highest first. -/
def ancestry (path : String) : List String :=
  let p := Storage.Place.ofPath path
  let count := p.reversed.length
  (List.range count).map fun n =>
    (Storage.Place.mk p.absolute (p.reversed.drop (count - 1 - n))).path

end PeerName.CommandLine

namespace PeerName.Main

open CommandLine

/-- Takes up what is under a path. -/
def takeUp (folder : Storage.Folder) (path : String) : IO Storage.Folder := do
  try
    let content ← IO.FS.readBinFile path
    return folder.give path (.file content.toList)
  catch
    | .inappropriateType _ 21 _ => return folder.give path .directory
    | _ => return folder

/-- Takes up what is under paths, and the directories above. -/
def takeUpAll (folder : Storage.Folder) (paths : List String) : IO Storage.Folder :=
  (paths.flatMap ancestry).foldlM takeUp folder

/-- The tree of the files that a command line names. -/
def takeUpRequest [Limits] (words : List String) : IO Storage.Folder := do
  let empty : Storage.Folder := { home := (← IO.currentDir).toString }
  match Request.ofWords words with
  | .ok (.request r) =>
    let folder ← takeUpAll empty r.paths
    takeUpAll folder (r.logPaths folder)
  | _ => return empty

/-- Writes back one entry unless it is as it was; a file that has grown is added to. -/
def writeBack (old : Storage.Folder) (place : Storage.Place) (entry : Storage.Entry) : IO Unit := do
  if old.entryAt place = some entry then return
  match entry with
  | .directory => IO.FS.createDirAll place.path
  | .file content =>
    let before := old.contentAt place
    if before.isPrefixOf content then
      let handle ← IO.FS.Handle.mk place.path .append
      handle.write (content.drop before.length).toByteArray
    else IO.FS.writeBinFile place.path content.toByteArray

/-- Removes a file that is no longer in the tree. -/
def sweep (new : Storage.Folder) (place : Storage.Place) (entry : Storage.Entry) : IO Unit := do
  match entry, new.entryAt place with
  | .file _, none => IO.FS.removeFile place.path
  | _, _ => return

/-- The present. -/
def now : IO Journal.Moment := do
  let stamp ← Std.Time.Timestamp.now
  let micros := stamp.toNanosecondsSinceUnixEpoch.val / 1000 % 1000000
  return .of stamp.toSecondsSinceUnixEpoch.val micros

/-- Where and when the records of this run arise. -/
def origin : IO Journal.Origin := do
  let moment ← now
  return { clock := moment.clockText, timestamp := moment.text.toOption.getD "",
           unit := .text "main", function := .text "main", line := .int 0,
           thread := .int (← IO.getTID).toNat, process := .int 0 }

end PeerName.Main

open PeerName in
/-- Runs the command line, and ends with its status. -/
def main (words : List String) : IO UInt32 := do
  let _ : Limits := .usual
  let folder ← Main.takeUpRequest words
  let origin ← Main.origin
  let outcome := CommandLine.run (fun _ => origin) { folder } words
  for (place, entry) in outcome.site.folder.entries do
    Main.writeBack folder place entry
  for (place, entry) in folder.entries do
    Main.sweep outcome.site.folder place entry
  IO.eprint outcome.site.stderr
  IO.print outcome.stdout
  match outcome.result with
  | .ok status => return status.code.toUInt32
  | .error crash =>
    IO.eprintln crash.message
    return 1
