import PeerName.Journal.Site
import PeerName.Settings.Basic
import PeerName.Unicode.Casing
import PeerName.Value.Basic
import PeerName.Value.Display
import PeerName.Value.Mismatch

/-!
# Setting up the journal

The settings give the journal a level, a handler for the error stream and, if they name a log
file, a handler for that file.  What was set up before is taken down first.  Once it is set up,
records can be written with a level given by name and with named values.

A log answers to words.  Some of them are levels, and a record can be written at those.  Others are
parts of the log that hold a value, or do some other work; when a record is to be written at such a
word, that part is asked to do it and refuses.

* `Journal.Part`, `Part.refusal` — a part of a log that takes no records, and what it reports when
  it is given one;
* `Journal.partOfWord?` — the part that a word stands for;
* `Site.setUp` — sets the journal up, as far as that succeeds;
* `Journal.plainRecord` — a record with a name and a level of any kind;
* `Journal.contextRecord` — a record with named values.
-/

namespace PeerName.Journal

/-! ### Parts of a log -/

/-- A part of a log that takes no records. -/
inductive Part where
  /-- It holds a value of this kind. -/
  | held (kind : String)
  /-- It does other work, for which no named values with details are taken. -/
  | withoutDetails (work : String)
  /-- It does other work, for which no named values are taken. -/
  | withoutNames (work : String)
  /-- It does other work, for which these values are missing. -/
  | wanting (work missing : String)
  /-- It makes new values of a type. -/
  | maker
  deriving DecidableEq

/-- What a part reports when it is given a record, the message of which is a text. -/
def Part.refusal : Part → String
  | held kind => "'" ++ kind ++ "' object is not callable"
  | withoutDetails work => work ++ "() got an unexpected keyword argument 'extra'"
  | withoutNames work => work ++ "() takes no keyword arguments"
  | wanting work missing => work ++ "() missing " ++ missing
  | maker => "object.__new__(X): X is not a type object (str)"

/-- The words for parts that hold values, with the kinds of the values. -/
def holders : List (String × String) :=
  [("name", "str"), ("level", "int"), ("parent", "RootLogger"), ("root", "RootLogger"),
   ("manager", "Manager"), ("propagate", "bool"), ("disabled", "bool"), ("handlers", "list"),
   ("filters", "list"), ("_cache", "dict"), ("__dict__", "dict"), ("__doc__", "str"),
   ("__module__", "str"), ("__weakref__", "NoneType")]

/-- The words for comparisons and other work that every value does. -/
def commonWork : List String :=
  ["__delattr__", "__eq__", "__ge__", "__getattribute__", "__gt__", "__hash__", "__le__",
   "__lt__", "__ne__", "__setattr__", "__str__"]

/-- The words for work that a log does in its own way. -/
def ownWork : List String :=
  ["__dir__", "__format__", "__getstate__", "__init_subclass__", "__reduce_ex__", "__sizeof__"]

/-- The words for parts of a log that take no records. -/
def otherParts : List (String × Part) :=
  holders.map (fun (word, kind) => (word, .held kind))
    ++ commonWork.map (fun word => (word, .withoutNames ("wrapper " ++ word)))
    ++ ownWork.map (fun word => (word, .withoutNames ("Logger." ++ word)))
    ++ [("__subclasshook__", .withoutNames "__subclasshook__"),
        ("__class__", .withoutDetails "Logger.__init__"),
        ("__init__", .withoutDetails "Logger.__init__"),
        ("__reduce__", .withoutDetails "Logger.__reduce__"),
        ("__repr__", .withoutDetails "Logger.__repr__"),
        ("filter", .withoutDetails "Filterer.filter"),
        ("handle", .withoutDetails "Logger.handle"),
        ("log", .wanting "Logger.log" "1 required positional argument: 'msg'"),
        ("_log", .wanting "Logger._log" "2 required positional arguments: 'msg' and 'args'"),
        ("__new__", .maker)]

/-- The part of a log that a word stands for. -/
def partOfWord? (word : String) : Option Part := otherParts.lookup word

end PeerName.Journal

namespace PeerName

/-! ### Setting up -/

open Journal (Level Handler Origin Record)

/-- The name under which the setting up is logged. -/
def setupLogger : String := "peercert.services.logging_service"

/-- The name under which the program itself is logged. -/
def programLogger : String := "peercert"

namespace Site

/-- Adds a handler. -/
def addHandler (site : Site) (h : Handler) : Site :=
  { site with journal := { site.journal with handlers := site.journal.handlers ++ [h] } }

/-- Takes down what was set up, and sets up the level and the error stream. -/
def setUpConsole (site : Site) (s : Settings) : Site :=
  let level := s.logLevel.level
  { site with journal := { level, handlers := [{ target := .console, level, dress := .plain }] } }

/-- Sets up the log file, with the directory that it lies in. -/
def setUpFile (site : Site) (s : Settings) : Site × Except Storage.Fault Unit :=
  let (folder, made) := site.folder.ensureParent s.logFile
  let site := { site with folder }
  match made with
  | .error cause => (site, .error cause)
  | .ok _ =>
    if s.logFile.toList.contains (Char.ofNat 0) then (site, .error .zeroCharacter)
    else
      let place := Storage.Place.ofPath s.logFile
      match site.folder.openAt place with
      | .error cause => (site, .error cause)
      | .ok folder =>
        ({ site with folder }.addHandler
          { target := .file place, level := s.logLevel.level,
            dress := if s.jsonLogging then .json else .plain }, .ok ())

/-- Sets the journal up.  When the log file cannot be opened, the level and the error stream have
been set up all the same. -/
def setUp [Limits] (o : Origin) (site : Site) (s : Settings) : Site × Except Storage.Fault Unit :=
  let site := site.setUpConsole s
  let (site, made) := if s.logFile = "" then (site, .ok ()) else site.setUpFile s
  match made with
  | .error cause => (site, .error cause)
  | .ok _ =>
    let record : Record :=
      { level := .debug, logger := setupLogger, message := "Logging service initialized" }
    (site.emit o record, .ok ())

end Site

namespace Journal

/-- Why a plain record cannot be written. -/
inductive RecordFault where
  /-- The name of the reporting part of the program is no text. -/
  | loggerName
  /-- The level is no integer. -/
  | level
  /-- The level has no name that can be written out. -/
  | unwritable (cause : Mismatch)
  deriving DecidableEq

/-- The report of a fault. -/
def RecordFault.message : RecordFault → String
  | loggerName => "A logger name must be a string"
  | level => "level must be an integer"
  | unwritable cause => cause.message

/-- The name of the reporting part of the program; the whole program has a name of its own. -/
def loggerName (v : Value) : Except RecordFault String :=
  match v with
  | .text s => .ok (if s = "" then "root" else s)
  | v => if v.isTruthy then .error .loggerName else .ok "root"

/-- A plain record, given by values.  The name of a level below all others is never needed. -/
def plainRecord [Limits] (logger level : Value) (message : String) :
    Except RecordFault Record := do
  let logger ← loggerName logger
  let level ← match level with
    | .int n =>
      match Desk.message.hindrance? [.int n] with
      | some cause => if n < 0 then pure n else throw (.unwritable cause)
      | none => pure n
    | .bool b => pure (if b then 1 else 0)
    | _ => throw .level
  return { level := ⟨level⟩, logger, message }

/-- Why a record with named values cannot be written. -/
inductive ContextFault where
  /-- A value has a name that is reserved. -/
  | reserved (name : String)
  /-- The level is no text. -/
  | mismatch (cause : Mismatch)
  /-- The level is a sequence of bytes. -/
  | bytesLevel
  /-- The level is a word for another part of the log, which reports this. -/
  | refused (report : String)
  deriving DecidableEq

/-- The report of a fault. -/
def ContextFault.message : ContextFault → String
  | reserved name =>
    "LoggingService.log_with_context() got multiple values for argument '" ++ name ++ "'"
  | mismatch cause => cause.message
  | bytesLevel => "attribute name must be string, not 'bytes'"
  | refused report => report

/-- The names that no value can have. -/
def reservedNames : List String := ["self", "level", "message"]

/-- The level of a name in any case; a name for nothing means an ordinary record. -/
def levelOfName (name : String) : Level :=
  match Unicode.lower name with
  | "debug" => .debug
  | "warning" | "warn" => .warning
  | "error" | "exception" => .error
  | "critical" | "fatal" => .critical
  | _ => .info

/-- Whether a name asks for the error at hand to be reported. -/
def reportsIncident (name : String) : Bool := Unicode.lower name == "exception"

/-- A record of the program with a level given by name and with named values. -/
def contextRecord (level : Value) (message : String) (context : List (String × Value)) :
    Except ContextFault Record :=
  match context.find? fun f => reservedNames.contains f.1 with
  | some f => .error (.reserved f.1)
  | none =>
    match level with
    | .text name =>
      match partOfWord? (Unicode.lower name) with
      | some part => .error (.refused part.refusal)
      | none =>
        .ok { level := levelOfName name, logger := programLogger, message, extra := .record context,
              incident := if reportsIncident name then some .unknown else none }
    | .bytes _ => .error .bytesLevel
    | v => .error (.mismatch (.noMember v.kind "lower"))

end Journal

end PeerName
