import PeerName.Journal.Record
import PeerName.Json.Writer
import PeerName.Storage.Path

/-!
# Entries and lines

A record becomes a line for people or a line for machines.  The line for people shows the time,
the reporting part, the level and the message, and below them the error that the record reports.
The line for machines is an entry: a JSON object with a fixed order of names, about most of whose
values nothing is promised.  Not every value can be written, and so there are entries that have no
line.

* `Incident.text`, `Incident.value` — the error that an entry reports, in words and as a value;
* `Entry`, `Entry.text` — an entry, and its JSON text;
* `unitOfPath` — the part of a program that a path stands for;
* `Origin` — where and when a record arises;
* `plainLine` — the line for people;
* `jsonLine` — the line for machines.
-/

namespace PeerName.Journal

/-! ### Entries -/

/-- The error that a record reports, in words. -/
def Incident.text : Incident → String
  | unknown => "NoneType: None"
  | raised kind "" => kind
  | raised kind message => kind ++ ": " ++ message

/-- The error that a record reports, as a value. -/
def Incident.value (i : Incident) : Value :=
  let trace := ("traceback", Value.list [.text (i.text ++ "\n")])
  match i with
  | unknown => .record [("type", .null), ("message", .null), trace]
  | raised kind message => .record [("type", .text kind), ("message", .text message), trace]

/-- An entry for machines. -/
structure Entry where
  timestamp : String
  /-- The name of the level. -/
  level : Value
  /-- The name of the reporting part of the program. -/
  logger : Value
  message : Text.CodePoints
  /-- The part of the program. -/
  unit : Value
  function : Value
  line : Value
  thread : Value
  process : Value
  extra : Value := .null
  incident : Option Incident := none

/-- The fields of an entry, with their JSON texts. -/
def Entry.fields (e : Entry) : List (String × List Char) :=
  [("timestamp", Json.encodeText e.timestamp.toList),
   ("level", Json.encodeChars e.level),
   ("logger_name", Json.encodeChars e.logger),
   ("message", Json.encodePoints e.message),
   ("module", Json.encodeChars e.unit),
   ("function", Json.encodeChars e.function),
   ("line_number", Json.encodeChars e.line),
   ("thread_id", Json.encodeChars e.thread),
   ("process_id", Json.encodeChars e.process),
   ("extra_data", Json.encodeChars e.extra),
   ("exception_info", Json.encodeChars (match e.incident with
     | none => .null
     | some i => i.value))]

/-- The values of an entry about which nothing is promised. -/
def Entry.values (e : Entry) : List Value :=
  [e.level, e.logger, e.unit, e.function, e.line, e.thread, e.process, e.extra]

section Limits

variable [Limits]

/-- The JSON text of an entry, if it can be written. -/
def Entry.text (e : Entry) : Except Mismatch String :=
  match Json.hindrance? e.values with
  | some cause => .error cause
  | none => .ok (String.ofList (Json.encodeObject e.fields))

end Limits

/-- The name of the part of a program that has no path. -/
def unknownUnit : String := "Unknown module"

/-- The part of a program that a path stands for: the last name without its last ending. -/
def unitOfPath : Value → Value
  | .text path => .text (Storage.Path.stem path)
  | .bytes path => .bytes ((Storage.Path.stemChars (path.map fun b => Char.ofNat b.toNat)).map
      fun c => UInt8.ofNat c.toNat)
  | _ => .text unknownUnit

/-! ### Lines -/

/-- Where and when a record arises. -/
structure Origin where
  /-- The time in lines for people. -/
  clock : String
  /-- The time in lines for machines. -/
  timestamp : String
  /-- The part of the program. -/
  unit : Value
  /-- The function. -/
  function : Value
  line : Value
  thread : Value
  process : Value
  /-- What the error stream shows if the record is lost on the way to a file. -/
  trace : String := ""

/-- A text followed by a line end, unless it ends with one. -/
def endLine (s : String) : String := if s.toList.getLast? = some '\n' then s else s ++ "\n"

/-- A text, and below it the error that a record reports. -/
def withIncident (s : String) : Option Incident → String
  | none => s
  | some i => endLine s ++ i.text

/-- The line for people. -/
def plainLine (o : Origin) (r : Record) : String :=
  withIncident (o.clock ++ " - " ++ r.logger ++ " - " ++ r.level.name ++ " - " ++ r.message)
    r.incident

/-- The line of a record when nothing has been set up: the message alone. -/
def bareLine (r : Record) : String := withIncident r.message r.incident

/-- A record as an entry for machines. -/
def Record.entry (o : Origin) (r : Record) : Entry where
  timestamp := o.timestamp
  level := .text r.level.name
  logger := .text r.logger
  message := Text.codePoints r.message.toList
  unit := o.unit
  function := o.function
  line := o.line
  thread := o.thread
  process := o.process
  extra := r.extra
  incident := r.incident

/-- The line for machines, if the entry can be written. -/
def jsonLine [Limits] (o : Origin) (r : Record) : Except Mismatch String := (r.entry o).text

end PeerName.Journal
