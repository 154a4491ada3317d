import PeerName.Journal.Setup
import PeerName.Settings.Source
import PeerName.Verification.Report

/-!
# The checker

A checker brings settings, journal and decisions together.  It starts from a settings file
and from overrides, and checks certificates against hosts under the policy that results.  Every
decision is logged with its details.  Where the report of a decision cannot be written out, checking
comes to an end.

* `Checker` — the state;
* `Checker.start` — reads the settings and sets up the journal;
* `Checker.check` — decides about hosts and logs the decisions.
-/

namespace PeerName

open Journal (Level Origin Record)

/-- The state of a checker. -/
structure Checker where
  /-- The path of the settings file, if there is one. -/
  settingsPath : Option String := none
  settings : Option Settings := none
  /-- The settings that the journal was last set up by, as far as this succeeded. -/
  service : Option Settings := none
  /-- The policy of decisions, once the checker is ready. -/
  policy : Option Policy := none

/-- Why a checker cannot start. -/
inductive StartFault where
  /-- An override has a reserved name. -/
  | reserved
  /-- The settings file cannot be loaded. -/
  | load (cause : Settings.LoadFault)
  /-- The overrides are no settings. -/
  | invalid (cause : Settings.Fault)
  /-- The log file cannot be opened. -/
  | storage (cause : Storage.Fault)

/-- The report of a fault. -/
def StartFault.message : StartFault → String
  | reserved => "HostCheckApplication.initialize() got multiple values for argument 'self'"
  | load cause => cause.message
  | invalid cause => cause.message
  | storage cause => cause.message

namespace Checker

section Limits

variable [Limits]

/-- The settings of the file, or the default ones if there is no file, with what was logged. -/
def baseSettings (c : Checker) (folder : Storage.Folder) :
    Except StartFault Settings × List Record :=
  match c.settingsPath with
  | none => (.ok {}, [])
  | some "" => (.ok {}, [])
  | some path =>
    let loaded := Settings.load folder path
    (loaded.outcome.mapError .load, loaded.log)

/-- Settings with overrides, of which the null ones are left out. -/
def override (s : Settings) (overrides : List (String × Value)) : Except StartFault Settings :=
  let given := overrides.filter fun f => match f.2 with
    | .null => false
    | _ => true
  (s.change given).mapError .invalid

/-- Reads the settings, applies the overrides, sets up the journal and takes over the policy, as
far as that succeeds.  The origin of a record goes by its number. -/
def start (o : Nat → Origin) (c : Checker) (site : Site) (overrides : List (String × Value)) :
    Checker × Site × Except StartFault Unit :=
  if overrides.any (·.1 == "self") then (c, site, .error .reserved)
  else
    let (base, log) := c.baseSettings site.folder
    let site := site.emitAll o log
    match base.bind (override · overrides) with
    | .error cause => (c, site, .error cause)
    | .ok settings =>
      let c := { c with settings := some settings }
      match site.setUp (o site.count) settings with
      | (site, .error cause) => (c, site, .error (.storage cause))
      | (site, .ok _) =>
        ({ c with service := some settings, policy := some settings.policy }, site, .ok ())

/-- The record of a decision. -/
def decisionRecord (d : Decision) : Record where
  level := if d.isAuthorized then .info else .warning
  logger := programLogger
  message := "Host " ++ d.host.plain ++ (if d.isAuthorized then " authorized" else " rejected")
  extra := .record d.context

/-- Decides about one host, and logs the decision, unless a report of it cannot be written out. -/
def checkHost (o : Nat → Origin) (policy : Policy) (cert : Option Certificate) (site : Site)
    (host : Value) : Site × Except Mismatch Decision :=
  let heard := verify policy cert host
  let site := site.emitAll o heard.log
  match heard.outcome with
  | .error cause => (site, .error cause)
  | .ok d =>
    match Desk.summary.hindrance? [d.host] with
    | some cause => (site, .error cause)
    | none => (site.emit (o site.count) (decisionRecord d), .ok d)

/-- Decides about hosts in order, up to the first about which there is no decision. -/
def checkHosts (o : Nat → Origin) (policy : Policy) (cert : Option Certificate) :
    Site → List Value → Site × Except Mismatch (List Decision)
  | site, [] => (site, .ok [])
  | site, host :: rest =>
    match checkHost o policy cert site host with
    | (site, .error cause) => (site, .error cause)
    | (site, .ok d) =>
      let (site, ds) := checkHosts o policy cert site rest
      (site, ds.map (d :: ·))

/-- Decides about hosts, provided that the checker is ready. -/
def check (o : Nat → Origin) (c : Checker) (site : Site) (cert : Option Certificate)
    (hosts : List Value) : Site × Except Mismatch (List Decision) :=
  match c.policy, hosts with
  | some policy, hosts => checkHosts o policy cert site hosts
  | none, [] => (site, .ok [])
  | none, _ :: _ => (site, .error (.noMember "NoneType" "verify_detailed"))

end Limits

end Checker

end PeerName
