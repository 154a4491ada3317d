import PeerName.Checker
import PeerName.CommandLine.Request
import PeerName.X509.Load

/-!
# Running a command line

A command line asks for the decisions about a certificate file and hosts, or for a file with the
default settings.  The report goes to standard output, one line for each host; complaints and the
journal go to the error stream.  The status tells whether all hosts are authorized.  Faults in
what the user provides are reported; other faults end the run.

* `Status` — how a run ends;
* `Crash` — a fault that ends a run;
* `Outcome` — what a run leaves behind;
* `run` — the run of a command line on a site.
-/

namespace PeerName.CommandLine

open Journal (Origin)

/-- How a run ends. -/
inductive Status where
  /-- All hosts are authorized, or something else that was asked for has been done. -/
  | success
  /-- Some host is refused. -/
  | refused
  /-- What was asked for could not be done. -/
  | misuse
  deriving DecidableEq

/-- The number of a status. -/
def Status.code : Status → Nat
  | success => 0
  | refused => 1
  | misuse => 2

/-- A fault that ends a run. -/
inductive Crash where
  | storage (cause : Storage.Fault)
  | start (cause : StartFault)
  | file (cause : X509.FileFault)
  | names (cause : Fault)
  | check (cause : Mismatch)

/-- The report of a crash. -/
def Crash.message : Crash → String
  | storage cause => cause.message
  | start cause => cause.message
  | file cause => cause.message
  | names cause => cause.message
  | check cause => cause.message

/-- What a run leaves behind. -/
structure Outcome where
  site : Site
  stdout : String := ""
  result : Except Crash Status

/-! ### Faults that are reported -/

/-- Whether a fault of a path is reported: something is missing, or the path is no path. -/
def storageReported : Storage.Fault → Bool
  | .atPath .missing _ => true
  | .atPath _ _ => false
  | .zeroCharacter => true
  | .tooDeep => false

/-- Whether a fault of settings is reported: a value is not admissible. -/
def settingsReported : Settings.Fault → Bool
  | .unbound _ => false
  | .notBoolean _ | .notText _ | .unknownLevel => true
  | .unwritable (.tooManyDigits _) => true
  | .unwritable _ => false

/-- Whether a fault of a settings file is reported: all but references that lead nowhere. -/
def loadReported : Settings.LoadFault → Bool
  | .missing _ | .undecodable _ | .malformed _ _ => true
  | .unresolved _ => false
  | .invalid cause => settingsReported cause

/-- Whether a fault at the start is reported. -/
def startReported : StartFault → Bool
  | .reserved => false
  | .load cause => loadReported cause
  | .invalid cause => settingsReported cause
  | .storage cause => storageReported cause

/-- Whether a fault of an encoded certificate is reported: its form is wrong. -/
def encodingReported (cause : X509.Fault) : Bool := cause = .malformed

/-- Whether a fault of a certificate file is reported. -/
def fileReported : X509.FileFault → Bool
  | .missing _ | .empty _ => true
  | .storage cause => storageReported cause
  | .unreadable cause => encodingReported cause

/-- Whether a fault of the names is reported. -/
def namesReported : Fault → Bool
  | .unreadable cause => encodingReported cause
  | _ => false

/-! ### The run -/

/-- A complaint, and the end of the run. -/
def refuse (site : Site) (text : String) : Outcome :=
  { site := site.complain text, result := .ok .misuse }

/-- A complaint about a fault. -/
def complaint (text : String) : String := "error: " ++ text ++ "\n"

/-- A fault that is either reported or ends the run. -/
def faulty (site : Site) (crash : Crash) (reported : Bool) : Outcome :=
  if reported then refuse site (complaint crash.message)
  else { site, result := .error crash }

section Limits

variable [Limits]

/-- The run that writes a file with the default settings. -/
def runWriteDefault (o : Nat → Origin) (site : Site) (path : String) : Outcome :=
  let written := Settings.writeDefault site.folder path
  let site := { site with folder := written.folder }.emitAll o written.log
  match written.outcome with
  | .error (.atPath cause path) => refuse site (complaint (Storage.Fault.atPath cause path).message)
  | .error cause => { site, result := .error (.storage cause) }
  | .ok _ =>
    { site, stdout := "Created default configuration at: " ++ path ++ "\n", result := .ok .success }

/-- The overrides that a request asks for. -/
def Request.overrides (r : Request) : List (String × Value) :=
  [("legacy_common_name_fallback", if r.noFallback then .bool false else .null),
   ("allow_wildcards", if r.noWildcards then .bool false else .null),
   ("log_level", (r.logLevel.map fun l => (l.map LogLevel.name).value).getD .null)]

/-- A text, or a word for its absence. -/
def orNone (s : String) : String := if s = "" then "(none)" else s

/-- The report of the names that a certificate claims. -/
def namesText (names : Names) : String :=
  let altNames := match names.altNames with
    | .list items => ", ".intercalate (items.map (·.plain))
    | v => v.plain
  let commonName := match names.commonName with
    | .null => ""
    | v => v.plain
  "Subject alternative DNS names: " ++ orNone altNames ++ "\n"
    ++ "Common name: " ++ orNone commonName ++ "\n"

/-- The report of decisions. -/
def decisionsText (decisions : List Decision) : String :=
  String.join (decisions.map fun d => d.line ++ "\n")

/-- The status of decisions. -/
def decisionsStatus (decisions : List Decision) : Status :=
  if decisions.all (·.isAuthorized) then .success else .refused

/-- The run that checks the hosts, after the names have been reported. -/
def runCheck (o : Nat → Origin) (checker : Checker) (site : Site) (cert : Certificate)
    (hosts : List (Argument String)) (shown : String) : Outcome :=
  match checker.check o site (some cert) (hosts.map (·.value)) with
  | (site, .error cause) => { site, stdout := shown, result := .error (.check cause) }
  | (site, .ok decisions) =>
    { site, stdout := shown ++ decisionsText decisions, result := .ok (decisionsStatus decisions) }

/-- The run that reports the names, if that is asked for, and checks the hosts. -/
def runCertificate (o : Nat → Origin) (checker : Checker) (site : Site) (cert : Certificate)
    (r : Request) : Outcome :=
  if r.showNames then
    let inspection := cert.names
    let site := site.emitAll o inspection.log
    match inspection.outcome with
    | .error cause =>
      if namesReported cause then
        refuse site (complaint ("cannot read certificate names: " ++ cause.message))
      else { site, result := .error (.names cause) }
    | .ok names => runCheck o checker site cert r.hosts (namesText names)
  else runCheck o checker site cert r.hosts ""

/-- The run of a request. -/
def runRequest (o : Nat → Origin) (site : Site) (r : Request) : Outcome :=
  match r.writeDefault.filter (· != ""), r.cert.filter (· != "") with
  | some path, _ => runWriteDefault o site path
  | none, none => refuse site (usageText ++ complaint "--cert is required")
  | none, some path =>
    if r.hosts.isEmpty && !r.showNames then
      refuse site (usageText ++ complaint "at least one --host or --show-names is required")
    else
      let (checker, site, started) :=
        ({ settingsPath := r.config } : Checker).start o site r.overrides
      match started with
      | .error cause => faulty site (.start cause) (startReported cause)
      | .ok _ =>
        match X509.Certificate.ofFile site.folder path with
        | .error cause => faulty site (.file cause) (fileReported cause)
        | .ok cert => runCertificate o checker site cert.certificate r

/-- The run of a command line.  The origin of a record goes by its number. -/
def run (o : Nat → Origin) (site : Site) (words : List String) : Outcome :=
  match Request.ofWords words with
  | .error mistake =>
    refuse site (usageText ++ programName ++ ": error: " ++ mistake.message ++ "\n")
  | .ok .help => { site, stdout := helpText, result := .ok .success }
  | .ok (.request r) => runRequest o site r

end Limits

end PeerName.CommandLine
