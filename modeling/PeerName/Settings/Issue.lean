import PeerName.Settings.Basic
import PeerName.Storage.Folder
import PeerName.Unicode.Casing
import PeerName.Value.Display
import PeerName.Value.Mismatch

/-!
# Issues with settings

Settings can be admissible and yet not do what was meant.  An issue names the setting, says what
is the matter, and is an error or a warning.

* `Issue`, `Issue.describe` — an issue, and its line;
* `Review`, `Review.describe` — issues sorted by their severity, and their summary;
* `Settings.review` — what is to be said about settings.
-/

namespace PeerName

/-- An issue with a setting.  Nothing is promised about the kinds of the parts. -/
structure Issue where
  field : Value
  message : Value
  severity : Value := .text "error"

/-- The upper-case form of a byte that is an ASCII letter. -/
def upperByte (b : UInt8) : UInt8 := UInt8.ofNat (Unicode.upperAscii (Char.ofNat b.toNat)).toNat

/-- The upper-case form of a value, which has to be a text or bytes. -/
def upperValue : Value → Except Mismatch Value
  | .text s => .ok (.text (Unicode.upper s))
  | .bytes b => .ok (.bytes (b.map upperByte))
  | v => .error (.noMember v.kind "upper")

/-- The form of an issue. -/
def Issue.form : Fields.Form where
  name := "ConfigValidationError"
  fields := [("field", none), ("message", none), ("severity", some (.text "error"))]

/-- The issue with these parts. -/
def Issue.ofParts : List Value → Issue
  | [field, message, severity] => { field, message, severity }
  | _ => { field := .null, message := .null }

/-- The issue of named values. -/
def Issue.ofFields (given : List (String × Value)) : Except Fields.Unbound Issue :=
  (form.bind given).map ofParts

/-- The issue of values in order. -/
def Issue.ofItems (given : List Value) : Except Fields.Unbound Issue :=
  (form.bindInOrder given).map ofParts

/-- The line of an issue whose parts can be written out. -/
def Issue.line (i : Issue) : Except Mismatch String := do
  let severity ← upperValue i.severity
  return severity.plain ++ ": " ++ i.field.plain ++ " - " ++ i.message.plain

/-- An issue on one line. -/
def Issue.describe [Limits] (i : Issue) : Except Mismatch String := do
  let line ← i.line
  Desk.summary.write [i.field, i.message] line

/-- Issues sorted by their severity. -/
structure Review where
  isValid : Value
  errors : List Issue
  warnings : List Issue

namespace Review

/-- Whether an issue has a severity. -/
def hasSeverity (severity : String) (i : Issue) : Bool := i.severity.text? = some severity

/-- Sorts issues by their severity; the order among equals is kept. -/
def ofIssues (isValid : Value) (errors warnings : List Issue) : Review where
  isValid := isValid
  errors := (errors ++ warnings).filter (hasSeverity "error")
  warnings := (errors ++ warnings).filter (hasSeverity "warning")

/-- Whether there is an error. -/
def hasErrors (r : Review) : Bool := !r.errors.isEmpty

/-- Whether there is a warning. -/
def hasWarnings (r : Review) : Bool := !r.warnings.isEmpty

/-- An issue as an item of a list.  The severity of a sorted issue is a text, so that it has a
line. -/
def item (i : Issue) : String :=
  "  - " ++ match i.line with
    | .ok s => s
    | .error _ => ""

/-- Issues under a heading, if there are any. -/
def block (heading : String) (issues : List Issue) : List String :=
  if issues.isEmpty then [] else heading :: issues.map item

/-- All issues, line by line, where their parts can be written out. -/
def summary (r : Review) : String :=
  let lines := block "Configuration Errors:" r.errors ++ block "Configuration Warnings:" r.warnings
  if lines.isEmpty then "Configuration is valid" else "\n".intercalate lines

/-- The summary, if all issues can be written out. -/
def describe [Limits] (r : Review) : Except Mismatch String :=
  Desk.summary.write ((r.errors ++ r.warnings).flatMap fun i => [i.field, i.message]) r.summary

end Review

namespace Settings

/-- A warning about a setting. -/
def warn (field message : String) : Issue :=
  { field := .text field, message := .text message, severity := .text "warning" }

/-- The issues with settings in a folder: the directory of the log file should exist, and a log
for machines should have a file. -/
def issues (s : Settings) (folder : Storage.Folder) : List Issue :=
  if s.logFile ≠ "" then
    let directory := Storage.Path.parent s.logFile
    if directory ≠ "" ∧ !folder.holds directory then
      [warn "log_file_path" ("Log directory does not exist: " ++ directory)]
    else []
  else if s.jsonLogging then
    [warn "json_logging" "JSON logging only applies to the log file, but no log_file_path is set"]
  else []

/-- What is to be said about settings in a folder.  None of the issues is an error. -/
def review (s : Settings) (folder : Storage.Folder) : Review :=
  .ofIssues (.bool true) (s.issues folder) []

end Settings

end PeerName
