import PeerName.Journal.Entry
import PeerName.Storage.Rotation
import PeerName.Text.Utf8

/-!
# Where records go

A site is what a running program writes to: the folder, the standard error stream and the journal,
which has a level and a list of handlers.  A record that weighs less than the level of the journal
is dropped; every handler writes those that reach its own level.  As long as there is no handler,
heavy records appear on the error stream without any dressing.

A handler that cannot write a record loses it, and shows a trace of this on the error stream; the
other handlers write it all the same.

* `Handler` — a way out for records;
* `Journal` — the level and the handlers;
* `Site` — the folder, the error stream and the journal;
* `Site.emit` — the effect of a record;
* `Site.emitAll` — the effect of records in order.
-/

namespace PeerName

namespace Journal

/-- How a handler dresses records. -/
inductive Dress where
  /-- For people. -/
  | plain
  /-- For machines. -/
  | json
  deriving DecidableEq

/-- Where a handler writes to. -/
inductive Target where
  | console
  | file (place : Storage.Place)
  deriving DecidableEq

/-- A way out for records. -/
structure Handler where
  target : Target
  level : Level
  dress : Dress
  deriving DecidableEq

/-- The line of a record, if it has one. -/
def Dress.line [Limits] (o : Origin) (r : Record) : Dress → Except Mismatch String
  | plain => .ok (plainLine o r)
  | json => jsonLine o r

end Journal

open Journal (Level Handler Origin Record)

/-- The level and the handlers. -/
structure Journal where
  level : Level := .warning
  handlers : List Handler := []
  deriving DecidableEq

/-- What a running program writes to. -/
structure Site where
  folder : Storage.Folder
  journal : Journal := {}
  /-- What has been written to the standard error stream. -/
  stderr : String := ""
  /-- How many records have been put together. -/
  count : Nat := 0

namespace Site

/-- Writes to the error stream. -/
def complain (site : Site) (s : String) : Site := { site with stderr := site.stderr ++ s }

section Limits

variable [Limits]

/-- Writes a line where a handler writes to, if that succeeds. -/
def writeLine (site : Site) (line : String) : Journal.Target → Site × Except Storage.Cause Unit
  | .console => (site.complain line, .ok ())
  | .file place =>
    let (folder, written) := site.folder.addLine place line
    ({ site with folder }, written)

/-- The effect of a handler on a record. -/
def handle (o : Origin) (r : Record) (site : Site) (h : Handler) : Site :=
  if r.level.number < h.level.number then site
  else match h.dress.line o r with
    | .error _ => site.complain o.trace
    | .ok line =>
      match site.writeLine (line ++ "\n") h.target with
      | (site, .error _) => site.complain o.trace
      | (site, .ok _) => site

/-- The effect of a record that weighs enough for the journal. -/
def write (o : Origin) (site : Site) (r : Record) : Site :=
  if site.journal.handlers.isEmpty then
    if r.level.number < Level.warning.number then site
    else site.complain (Journal.bareLine r ++ "\n")
  else site.journal.handlers.foldl (handle o r) site

/-- The effect of a record. -/
def emit (o : Origin) (site : Site) (r : Record) : Site :=
  if r.level.number < site.journal.level.number then site
  else { site with count := site.count + 1 }.write o r

/-- The effect of records in order; the origin of a record goes by its number. -/
def emitAll (o : Nat → Origin) (site : Site) (records : List Record) : Site :=
  records.foldl (fun site r => site.emit (o site.count) r) site

end Limits

end Site

end PeerName
