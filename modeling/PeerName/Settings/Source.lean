import PeerName.Journal.Record
import PeerName.Properties.Reader
import PeerName.Properties.Reference
import PeerName.Settings.Issue

/-!
# Settings from a file

A settings file is a document of named options.  Every setting belongs to a section and can be
given there, or under its bare name among the defaults; of several values the last one counts.
Options that are no settings are passed over with a log record.

* `Setting` — the settings that can be given;
* `Setting.ofKey?` — the setting of a key;
* `Settings.ofEntries` — the settings that keys and values of any kind give, where the texts of
  all values can be written out;
* `Settings.readEntries` — the keys and values of a file;
* `Settings.load` — the settings of a file, with the log records;
* `Settings.defaultText` — a file with the default settings;
* `Keeper` — the settings of the last file that was loaded, if any: a file that cannot be loaded
  leaves them as they are.
-/

namespace PeerName

open Journal (Level Record)

/-- A setting. -/
inductive Setting where
  | commonNameFallback
  | wildcards
  | logLevel
  | logFile
  | jsonLogging
  deriving DecidableEq

namespace Setting

/-- The name of a setting. -/
def name : Setting → String
  | commonNameFallback => "legacy_common_name_fallback"
  | wildcards => "allow_wildcards"
  | logLevel => "log_level"
  | logFile => "log_file_path"
  | jsonLogging => "json_logging"

/-- The section that a setting belongs to. -/
def owner : Setting → String
  | commonNameFallback | wildcards => "verification"
  | logLevel | logFile | jsonLogging => "app"

/-- The key of a setting in its section. -/
def key (s : Setting) : String := s.owner ++ "." ++ s.name

/-- All settings. -/
def all : List Setting := [commonNameFallback, wildcards, logLevel, logFile, jsonLogging]

/-- The setting that a key means, with or without the section. -/
def ofKey? (key : String) : Option Setting := all.find? fun s => s.key = key || s.name = key

end Setting

namespace Settings

/-- The texts that mean yes. -/
def yesWords : List String := ["true", "yes", "1", "on", "enabled"]

/-- A text without blanks at its ends. -/
def trimText (s : String) : String := String.ofList (Unicode.trim s.toList)

/-- The truth value of a value: a text means yes if it is one of a few words in any case. -/
def truth : Value → Bool
  | .bool b => b
  | .text s => yesWords.contains (Unicode.lower (trimText s))
  | v => v.isTruthy

section Limits

variable [Limits]

/-- The text of a value, if it can be written out; null is empty. -/
def valueText : Value → Except Mismatch String
  | .null => .ok ""
  | v => Desk.settings.write [v] v.plain

/-- Settings whose level is still a name. -/
structure Draft where
  commonNameFallback : Bool := true
  wildcards : Bool := true
  levelName : String := "INFO"
  logFile : String := ""
  jsonLogging : Bool := false

/-- Gives a setting a value. -/
def Draft.set (d : Draft) (s : Setting) (v : Value) : Except Mismatch Draft :=
  match s with
  | .commonNameFallback => .ok { d with commonNameFallback := truth v }
  | .wildcards => .ok { d with wildcards := truth v }
  | .logLevel => (valueText v).map fun t => { d with levelName := Unicode.upper (trimText t) }
  | .logFile => (valueText v).map fun t => { d with logFile := t }
  | .jsonLogging => .ok { d with jsonLogging := truth v }

/-- The settings, if the name of the level is known. -/
def Draft.settings (d : Draft) : Except Fault Settings :=
  match LogLevel.ofName? d.levelName with
  | some logLevel =>
    .ok { commonNameFallback := d.commonNameFallback, wildcards := d.wildcards, logLevel,
          logFile := d.logFile, jsonLogging := d.jsonLogging }
  | none => .error .unknownLevel

/-- The name under which loading is logged. -/
def loaderLogger : String := "peercert.services.config_service"

/-- A record of loading. -/
def loaderRecord (level : Level) (message : String) : Record :=
  { level, logger := loaderLogger, message }

/-- Gives a setting the value of a key, or logs that the key is unknown. -/
def setEntry (state : Draft × List Record) (entry : Value × Value) :
    Except Mismatch (Draft × List Record) :=
  match entry.1.text?.bind Setting.ofKey? with
  | some s => (state.1.set s entry.2).map fun draft => (draft, state.2)
  | none =>
    let message := "Ignoring unknown configuration key: " ++ entry.1.plain
    (Desk.settings.write [entry.1] message).map fun message =>
      (state.1, state.2 ++ [loaderRecord .debug message])

/-- Takes keys with their values in order, up to the first entry with something that cannot be
written out, and tells what was in the way. -/
def setEntries : Draft × List Record → List (Value × Value) →
    (Draft × List Record) × Option Mismatch
  | state, [] => (state, none)
  | state, entry :: rest =>
    match setEntry state entry with
    | .ok state => setEntries state rest
    | .error cause => (state, some cause)

/-- A result, with what was logged on the way. -/
structure Logged (ε α : Type) where
  log : List Record
  outcome : Except ε α

/-- The settings that keys with their values give, in order. -/
def ofEntries (entries : List (Value × Value)) : Logged Fault Settings :=
  match setEntries ({}, []) entries with
  | ((draft, log), none) => { log, outcome := draft.settings }
  | ((_, log), some cause) => { log, outcome := .error (.unwritable cause) }

end Limits

/-- Why settings cannot be loaded. -/
inductive LoadFault where
  /-- There is nothing at this path. -/
  | missing (path : String)
  /-- The file is no text. -/
  | undecodable (cause : Utf8.Fault)
  /-- The file is no document. -/
  | malformed (file : String) (cause : Properties.SyntaxFault)
  /-- A value refers to what is not there. -/
  | unresolved (cause : Properties.Unresolved)
  /-- A setting has no admissible value. -/
  | invalid (cause : Fault)

/-- The report of a fault. -/
def LoadFault.message : LoadFault → String
  | missing path => "Configuration file not found: " ++ path
  | undecodable cause => cause.message
  | malformed file cause => "Failed to parse configuration file: " ++ cause.message file
  | unresolved cause => cause.message
  | invalid cause => cause.message

/-- The keys and values of the file under a path; where no file can be read there are none. -/
def readEntries (folder : Storage.Folder) (path : String) :
    Except LoadFault Properties.Options :=
  match folder.read path with
  | .error _ => .ok []
  | .ok bytes =>
    match Properties.Document.ofLines (.ofBytes bytes) with
    | .error (.malformed cause) => .error (.malformed path cause)
    | .error (.undecodable cause) => .error (.undecodable cause)
    | .ok document => document.entries.mapError .unresolved

/-- What is logged about the issues with settings. -/
def warnings (s : Settings) (folder : Storage.Folder) : List Record :=
  let review := s.review folder
  if review.hasWarnings then
    [loaderRecord .warning ("Configuration warnings:\n" ++ review.summary)]
  else []

/-- The settings of the file under a path. -/
def load [Limits] (folder : Storage.Folder) (path : String) : Logged LoadFault Settings :=
  if !folder.holds path then { log := [], outcome := .error (.missing path) }
  else match readEntries folder path with
    | .error cause => { log := [], outcome := .error cause }
    | .ok entries =>
      let made := ofEntries (entries.map fun e => (.text e.1, .text e.2))
      match made.outcome with
      | .error cause => { log := made.log, outcome := .error (.invalid cause) }
      | .ok s => { log := made.log ++ s.warnings folder, outcome := .ok s }

/-- A file with the default settings. -/
def defaultText : String :=
  "# Peer certificate verification settings\n\n[verification]\n"
    ++ "# Match the subject commonName when a certificate has no subjectAltName DNS entries\n"
    ++ "legacy_common_name_fallback = true\nallow_wildcards = true\n\n[app]\nlog_level = INFO\n"
    ++ "# Leave empty to log to the console only\nlog_file_path =\njson_logging = false\n"

/-- The folder after an attempt to write a file, and the log records of the attempt. -/
structure Written where
  folder : Storage.Folder
  log : List Record
  outcome : Except Storage.Fault Unit

/-- Writes a file with the default settings, with the directories above it. -/
def writeDefault (folder : Storage.Folder) (path : String) : Written :=
  let directory := Storage.Path.parent path
  let (folder, made) :=
    if directory = "" then (folder, .ok ()) else folder.makeDirectories directory
  match made with
  | .error cause => { folder, log := [], outcome := .error cause }
  | .ok _ =>
    match folder.write path (Utf8.encode defaultText) with
    | .error cause => { folder, log := [], outcome := .error cause }
    | .ok folder =>
      { folder, outcome := .ok (),
        log := [loaderRecord .info ("Created default configuration file: " ++ path)] }

/-! ### Settings in force -/

/-- The settings in force, if a file has been loaded. -/
structure Keeper where
  current : Option Settings := none

namespace Keeper

/-- The report that no file has been loaded. -/
def emptyMessage : String := "No configuration loaded. Call load_config() first."

/-- Why there are no settings in force. -/
inductive Vacancy where
  /-- No file has been loaded. -/
  | nothingLoaded
  deriving DecidableEq

/-- The report of it. -/
def Vacancy.message : Vacancy → String
  | nothingLoaded => emptyMessage

/-- The settings in force. -/
def get (keeper : Keeper) : Except Vacancy Settings :=
  match keeper.current with
  | some s => .ok s
  | none => .error .nothingLoaded

/-- Loads the file under a path. -/
def load [Limits] (keeper : Keeper) (folder : Storage.Folder) (path : String) :
    Keeper × Logged LoadFault Settings :=
  let loaded := Settings.load folder path
  match loaded.outcome with
  | .ok s => ({ current := some s }, loaded)
  | .error _ => (keeper, loaded)

/-- A new keeper, which loads the file under a path unless there is none or the path is empty. -/
def new [Limits] (folder : Storage.Folder) (path : Option String) :
    Except LoadFault Keeper × List Record :=
  match path with
  | none => (.ok {}, [])
  | some "" => (.ok {}, [])
  | some path =>
    let (keeper, loaded) := load {} folder path
    (loaded.outcome.map fun _ => keeper, loaded.log)

end Keeper

end Settings

end PeerName
