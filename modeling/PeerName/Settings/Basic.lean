import PeerName.Fields.Binding
import PeerName.Journal.Record
import PeerName.Verification.Decision

/-!
# Settings

What can be set: the two switches of the policy, the level from which log records are kept, the
log file, and whether the log file is written for machines.

* `LogLevel` — the five levels that can be set;
* `Settings` — the settings;
* `Settings.ofValues` — the settings that values of any kind ask for.
-/

namespace PeerName

/-- A level that can be set. -/
inductive LogLevel where
  | debug
  | info
  | warning
  | error
  | critical
  deriving DecidableEq

namespace LogLevel

/-- The weight of the level. -/
def level : LogLevel → Journal.Level
  | debug => .debug
  | info => .info
  | warning => .warning
  | error => .error
  | critical => .critical

/-- The name of the level. -/
def name (l : LogLevel) : String := l.level.name

/-- All levels, the lightest first. -/
def all : List LogLevel := [debug, info, warning, error, critical]

/-- The level of a name. -/
def ofName? (name : String) : Option LogLevel := all.find? (·.name = name)

end LogLevel

/-- The settings of the program. -/
structure Settings where
  /-- Whether the common name counts when there are no alternative DNS names. -/
  commonNameFallback : Bool := true
  /-- Whether a leading star stands for any label. -/
  wildcards : Bool := true
  /-- The level from which log records are kept. -/
  logLevel : LogLevel := .info
  /-- The path of the log file; there is none if it is empty. -/
  logFile : String := ""
  /-- Whether the log file is written for machines. -/
  jsonLogging : Bool := false
  deriving DecidableEq

namespace Settings

/-- The policy that the settings ask for. -/
def policy (s : Settings) : Policy where
  commonNameFallback := s.commonNameFallback
  wildcards := s.wildcards

/-- Why values are no settings. -/
inductive Fault where
  /-- The names do not fit. -/
  | unbound (cause : Fields.Unbound)
  /-- This field has to be a truth value. -/
  | notBoolean (field : String)
  /-- This field has to be a text. -/
  | notText (field : String)
  /-- The level is none of the five. -/
  | unknownLevel
  /-- A value cannot be written out. -/
  | unwritable (cause : Mismatch)
  deriving DecidableEq

/-- The report of a fault. -/
def Fault.message : Fault → String
  | unbound cause => cause.message
  | notBoolean field => field ++ " must be a boolean"
  | notText field => field ++ " must be a string"
  | unknownLevel => "log_level must be one of: DEBUG, INFO, WARNING, ERROR, CRITICAL"
  | unwritable cause => cause.message

/-- The truth value of a field. -/
def boolean (field : String) : Value → Except Fault Bool
  | .bool b => .ok b
  | _ => .error (.notBoolean field)

/-- The text of a field. -/
def text (field : String) : Value → Except Fault String
  | .text s => .ok s
  | _ => .error (.notText field)

/-- The level of a field. -/
def level : Value → Except Fault LogLevel
  | .text s =>
    match LogLevel.ofName? s with
    | some l => .ok l
    | none => .error .unknownLevel
  | _ => .error .unknownLevel

/-- The settings as named values, in the order of the fields. -/
def fields (s : Settings) : List (String × Value) :=
  [("legacy_common_name_fallback", .bool s.commonNameFallback),
   ("allow_wildcards", .bool s.wildcards),
   ("log_level", .text s.logLevel.name),
   ("log_file_path", .text s.logFile),
   ("json_logging", .bool s.jsonLogging)]

/-- The form of settings, with the values of these settings as defaults. -/
def form (s : Settings) : Fields.Form :=
  { name := "Config", fields := s.fields.map fun f => (f.1, some f.2) }

/-- These settings with some fields changed; names and values are checked. -/
def change (s : Settings) (given : List (String × Value)) : Except Fault Settings := do
  match ← (s.form.bind given).mapError .unbound with
  | [fallback, wildcards, logLevel, logFile, jsonLogging] =>
    let commonNameFallback ← boolean "legacy_common_name_fallback" fallback
    let wildcards ← boolean "allow_wildcards" wildcards
    let jsonLogging ← boolean "json_logging" jsonLogging
    let logFile ← text "log_file_path" logFile
    let logLevel ← level logLevel
    return { commonNameFallback, wildcards, logLevel, logFile, jsonLogging }
  | _ => return s

/-- The settings that named values ask for; what is not named has its default. -/
def ofFields (given : List (String × Value)) : Except Fault Settings := ({} : Settings).change given

end Settings

end PeerName
