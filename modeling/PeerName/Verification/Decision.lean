import PeerName.Certificate.Basic
import PeerName.Host.Pattern
import PeerName.Value.Basic
import PeerName.Value.Display

/-!
# Decisions

Whether a certificate authorizes a peer to act as a host.  The alternative DNS names decide alone
wherever there are any; the common name is looked at only where there are none and the policy
admits it.  Whatever cannot be read authorizes nobody.

* `Policy` — what a decision may rely on: whether the common name may stand in for missing
  alternative names, and whether a star in a pattern stands for any label;
* `Verdict` — authorized, with the name that covers the host, or refused, with the reason;
* `Refusal.message` — the reason in words;
* `judge` — the inspection of a certificate that ends in a verdict;
* `Decision` — the verdict about a host;
* `Deliberation` — how a decision is reached, or fails to be, with the records logged and the places
  looked at;
* `verify` — the deliberation about a host.  A fault on the way is a refusal; but where the report
  of what has happened cannot be written out, there is no decision.
-/

namespace PeerName

/-! ### Policies -/

/-- What a decision may rely on. -/
structure Policy where
  /-- Whether the common name counts when there are no alternative DNS names. -/
  commonNameFallback : Bool := true
  /-- Whether a leading star stands for any label. -/
  wildcards : Bool := true
  deriving DecidableEq

/-- The policy that a record of settings asks for; a switch that is not mentioned is on, and any
value is read as a truth value. -/
def Policy.ofFields (fields : List (String × Value)) : Policy :=
  let isOn (name : String) := ((Value.field? fields name).getD (.bool true)).isTruthy
  { commonNameFallback := isOn "legacy_common_name_fallback", wildcards := isOn "allow_wildcards" }

/-! ### Decisions -/

open Journal (Level Record)

/-- The part of a certificate that a covering name comes from. -/
inductive NameSource where
  | altName
  | commonName
  deriving DecidableEq

/-- The short name of a source. -/
def NameSource.tag : NameSource → String
  | altName => "san"
  | commonName => "cn"

/-- Why a host is refused. -/
inductive Refusal where
  /-- There is no certificate. -/
  | noCertificate
  /-- The names could not be read. -/
  | unreadable (cause : Fault)
  /-- None of the alternative names covers the host. -/
  | notListed
  /-- There are no alternative names, and the policy asks for them. -/
  | noAltNames
  /-- There are neither alternative names nor a common name. -/
  | noNames
  /-- The common name does not cover the host. -/
  | otherName (commonName : Value)

/-- The reason for refusing a host, in words. -/
def Refusal.message (host : Value) : Refusal → String
  | noCertificate => "No peer certificate"
  | unreadable cause => "Certificate name error: " ++ cause.message
  | notListed => "Host " ++ host.quoted ++ " is not listed in subjectAltName"
  | noAltNames => "Certificate has no subjectAltName DNS entries"
  | noNames => "Certificate has neither subjectAltName DNS entries nor a commonName"
  | otherName commonName =>
    "Host " ++ host.quoted ++ " does not match commonName " ++ commonName.quoted

/-- Whether a host is authorized. -/
inductive Verdict where
  | authorized (name : Value) (source : NameSource)
  | refused (reason : Refusal)

/-- Whether the verdict authorizes. -/
def Verdict.isAuthorized : Verdict → Bool
  | authorized _ _ => true
  | refused _ => false

/-- The name under which verdicts are logged. -/
def verifierLogger : String := "peercert.security.name_verifier"

/-- A record of the verifier. -/
def verifierRecord (level : Level) (message : String) : Record :=
  { level, logger := verifierLogger, message }

section Deliberation

variable [Limits]

/-- The inspection of the alternative names. -/
def judgeAltNames (policy : Policy) (cert : Certificate) (host : Value) : Inspection Verdict := do
  let names ← cert.look .altNames
  match names.elements with
  | .error cause => .fail (.mismatch cause)
  | .ok patterns =>
    match Host.firstCovering policy.wildcards patterns host with
    | some name =>
      .quotable [host, name]
      .report (verifierRecord .debug
        ("Host " ++ host.quoted ++ " matched SAN entry " ++ name.quoted))
      return .authorized name .altName
    | none =>
      .quotable [host]
      .report (verifierRecord .debug
        ("Host " ++ host.quoted ++ " matched none of "
          ++ String.ofList (natText patterns.length) ++ " SAN entries"))
      return .refused .notListed

/-- The inspection of the common name. -/
def judgeCommonName (policy : Policy) (cert : Certificate) (host : Value) : Inspection Verdict := do
  let name ← cert.look .commonName
  match name with
  | .null => return .refused .noNames
  | name =>
    .quotable [host, name]
    if Host.coversValue policy.wildcards name host then
      .report (verifierRecord .debug
        ("Host " ++ host.quoted ++ " matched legacy commonName " ++ name.quoted))
      return .authorized name .commonName
    else return .refused (.otherName name)

/-- The inspection of a certificate for the names that cover a host. -/
def judge (policy : Policy) (cert : Certificate) (host : Value) : Inspection Verdict := do
  let hasAltNames ← cert.look .hasAltNames
  if hasAltNames.isTruthy then judgeAltNames policy cert host
  else if policy.commonNameFallback then judgeCommonName policy cert host
  else return .refused .noAltNames

/-- A verdict about a host. -/
structure Decision where
  host : Value
  verdict : Verdict

/-- How a decision is reached. -/
structure Deliberation where
  /-- The decision, or what kept a report from being written out. -/
  outcome : Except Mismatch Decision
  /-- The records logged on the way. -/
  log : List Record
  /-- The places of the certificate that were looked at, in order. -/
  calls : List Accessor

/-- Whether the host is authorized, if there is a decision. -/
def Deliberation.authorized (d : Deliberation) : Except Mismatch Bool :=
  d.outcome.map (·.verdict.isAuthorized)

/-- What keeps the record of a fault from being written out: the host is quoted in it, and then the
report of the fault follows. -/
def Fault.hindranceAbout? (host : Value) (cause : Fault) : Option Mismatch :=
  (Desk.verifier.hindrance? [host]).or (cause.hindrance? .fault)

/-- The end of a deliberation by a fault: a refusal with a record of it, if this can be written
out. -/
def Deliberation.ofFault (host : Value) (cause : Fault) (log : List Record)
    (calls : List Accessor) : Deliberation :=
  match cause.hindranceAbout? host with
  | some hindrance => { outcome := .error hindrance, log, calls }
  | none =>
    { outcome := .ok { host, verdict := .refused (.unreadable cause) }, calls,
      log := log ++ [verifierRecord .error
        ("Hostname verification failed for " ++ host.quoted ++ ": " ++ cause.message)] }

/-- Decides whether a certificate authorizes a peer to act as a host. -/
def verify (policy : Policy) (cert : Option Certificate) (host : Value) : Deliberation :=
  match cert with
  | none =>
    match Desk.verifier.hindrance? [host] with
    | some hindrance => { outcome := .error hindrance, log := [], calls := [] }
    | none =>
      { outcome := .ok { host, verdict := .refused .noCertificate }, calls := [],
        log := [verifierRecord .debug ("No peer certificate to verify against " ++ host.quoted)] }
  | some cert =>
    let inspection := judge policy cert host
    match inspection.outcome with
    | .ok verdict =>
      { outcome := .ok { host, verdict }, log := inspection.log, calls := inspection.calls }
    | .error cause => .ofFault host cause inspection.log inspection.calls

end Deliberation

namespace Decision

/-- Whether the host is authorized. -/
def isAuthorized (d : Decision) : Bool := d.verdict.isAuthorized

/-- The name that covers the host, or null. -/
def matchedName (d : Decision) : Value :=
  match d.verdict with
  | .authorized name _ => name
  | .refused _ => .null

/-- The part of the certificate that the name comes from. -/
def source? (d : Decision) : Option NameSource :=
  match d.verdict with
  | .authorized _ source => some source
  | .refused _ => none

/-- The reason for refusing the host. -/
def refusal? (d : Decision) : Option String :=
  match d.verdict with
  | .authorized _ _ => none
  | .refused reason => some (reason.message d.host)

end Decision

end PeerName
