import PeerName.Value.Basic
import PeerName.Value.Display
import PeerName.Value.Mismatch

/-!
# Log records

A record says who reports what and how heavy it weighs.  It can carry a value for machines to
read, and the error that it reports.  The weight is a number.  Five numbers have names of their
own, and two of them have a second name by which they can be found.

* `Level`, `Level.name` — the weight of a record, and its name;
* `levelName` — the name of a level that is given as a value of any kind;
* `Incident` — the error a record reports;
* `Record` — the record.
-/

namespace PeerName.Journal

/-! ### Levels -/

/-- The weight of a log record. -/
structure Level where
  number : Int
  deriving DecidableEq

namespace Level

/-- Details for finding faults. -/
def debug : Level := ⟨10⟩

/-- The ordinary course of events. -/
def info : Level := ⟨20⟩

/-- Something to look at. -/
def warning : Level := ⟨30⟩

/-- An operation failed. -/
def error : Level := ⟨40⟩

/-- The program cannot go on. -/
def critical : Level := ⟨50⟩

/-- The name of a level; a level between the named ones is named by its number, where this can be
written out. -/
def name (level : Level) : String :=
  if level = debug then "DEBUG"
  else if level = info then "INFO"
  else if level = warning then "WARNING"
  else if level = error then "ERROR"
  else if level = critical then "CRITICAL"
  else if level.number = 0 then "NOTSET"
  else "Level " ++ String.ofList (intText level.number)

end Level

/-- The numbers of levels by their names. -/
def numbersByName : List (String × Int) :=
  [("CRITICAL", 50), ("FATAL", 50), ("ERROR", 40), ("WARN", 30), ("WARNING", 30), ("INFO", 20),
   ("DEBUG", 10), ("NOTSET", 0)]

/-- The level that a number of any kind is, if it has a name. -/
def namedLevel? : Value → Option Level
  | .int n => ([50, 40, 30, 20, 10, 0].find? (· == n)).map Level.mk
  | .bool b => if b then none else some ⟨0⟩
  | .real x =>
    if x.isZero then some ⟨0⟩
    else ([50, 40, 30, 20, 10].find? fun n => Binary64.ofInt n == x).map Level.mk
  | _ => none

/-- The name of a level that is given as a value: the name of a number, the number of a name, or
else a text that holds the value.  A list or a record cannot be looked up. -/
def levelName [Limits] : Value → Except Mismatch Value
  | .list _ => .error (.notHashable "list")
  | .record _ => .error (.notHashable "dict")
  | .text s =>
    .ok (match numbersByName.lookup s with
      | some n => .int n
      | none => .text ("Level " ++ s))
  | v =>
    match namedLevel? v with
    | some level => .ok (.text level.name)
    | none => (Desk.message.write [v] ("Level " ++ v.plain)).map .text

/-! ### Records -/

/-- The error that a record reports. -/
inductive Incident where
  /-- An error is reported where none has occurred. -/
  | unknown
  /-- An error of a kind, with its text. -/
  | raised (kind message : String)

/-- A log record. -/
structure Record where
  level : Level
  /-- The name of the reporting part of the program. -/
  logger : String
  message : String
  /-- A value for machines to read; null if there is none. -/
  extra : Value := .null
  incident : Option Incident := none

end PeerName.Journal
