import PeerName.Fields.Binding
import PeerName.Settings.Issue
import PeerName.Verification.Decision

/-!
# Reports

A decision is reported on one line.  A report can also be built from named values, of whose kinds
nothing is promised.

* `Report` — what a report says;
* `Report.ofFields` — the report of named values;
* `Decision.report`, `Deliberation.report` — the report of a decision, if there is one;
* `Report.line` — the line.
-/

namespace PeerName

/-- What a report says about a host. -/
structure Report where
  isAuthorized : Value
  hostname : Value
  matchedName : Value := .null
  source : Value := .null
  errorMessage : Value := .null

namespace Report

/-- The form of a report. -/
def form : Fields.Form where
  name := "VerificationResult"
  fields := [("is_authorized", none), ("hostname", none), ("matched_name", some .null),
    ("source", some .null), ("error_message", some .null)]

/-- The report of named values. -/
def ofFields (given : List (String × Value)) : Except Fields.Unbound Report := do
  match ← form.bind given with
  | [isAuthorized, hostname, matchedName, source, errorMessage] =>
    return { isAuthorized, hostname, matchedName, source, errorMessage }
  | _ => return { isAuthorized := .null, hostname := .null }

/-- The line of a report. -/
def line [Limits] (r : Report) : Except Mismatch String :=
  if r.isAuthorized.isTruthy then do
    let host ← Desk.summary.write [r.hostname] r.hostname.plain
    let source ← upperValue r.source
    Desk.summary.write [source, r.matchedName]
      ("OK      " ++ host ++ " (matched " ++ source.plain ++ " " ++ r.matchedName.plain ++ ")")
  else
    Desk.summary.write [r.hostname, r.errorMessage]
      ("REJECT  " ++ r.hostname.plain ++ " (" ++ r.errorMessage.plain ++ ")")

end Report

/-- The named values of a decision besides the verdict itself. -/
def Decision.context (d : Decision) : List (String × Value) :=
  [("hostname", d.host), ("matched_name", d.matchedName),
   ("source", .ofText? (d.source?.map (·.tag))), ("error_message", .ofText? d.refusal?)]

/-- The report of a decision. -/
def Decision.report (d : Decision) : Report where
  isAuthorized := .bool d.isAuthorized
  hostname := d.host
  matchedName := d.matchedName
  source := .ofText? (d.source?.map (·.tag))
  errorMessage := .ofText? d.refusal?

/-- The report of a deliberation, if there is a decision. -/
def Deliberation.report (d : Deliberation) : Except Mismatch Report :=
  d.outcome.map (·.report)

/-- The line of a decision about a host that can be written out. -/
def Decision.line (d : Decision) : String :=
  match d.verdict with
  | .authorized name source =>
    "OK      " ++ d.host.plain ++ " (matched " ++ Unicode.upper source.tag ++ " " ++ name.plain
      ++ ")"
  | .refused reason => "REJECT  " ++ d.host.plain ++ " (" ++ reason.message d.host ++ ")"

end PeerName
