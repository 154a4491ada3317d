import PeerName.Journal.Record
import PeerName.Value.Display
import PeerName.Value.Mismatch

/-!
# Certificates as a source of names

A decision about a host looks at a certificate in three places: whether it has alternative DNS
names, what they are, and the common name of its subject.  Each place can be unreadable, and
nothing is promised about the values found there or about their agreeing with one another.  The
report about an encoded certificate is one fixed text: nothing that stands in a certificate from
outside gets into a message by this way.

* `X509.Fault` — why an encoded certificate cannot be read;
* `Fault` — why a place could not be read;
* `Reading` — the result of reading one place, with the log records written meanwhile;
* `Certificate` — the three readings;
* `Inspection` — a sequence of readings, which stops at the first fault and remembers which
  places were looked at;
* `Certificate.names` — all three places in one inspection;
* `InMemory` — a certificate whose names are given directly.  It has alternative names exactly when
  its list of names is not empty, and reading it never fails.
-/

namespace PeerName.X509

/-! ### Faults of an encoded certificate -/

/-- Why an encoded certificate cannot be read. -/
inductive Fault where
  /-- The bytes do not follow the format, or their parts contradict each other. -/
  | malformed
  /-- A name holds a bit string where a text is expected. -/
  | notText
  /-- The address of a host stands where that of a network is expected. -/
  | notNetwork
  /-- A feature of the protocol is unknown. -/
  | unknownFeature
  /-- A list of features is empty. -/
  | noFeature
  /-- Two extensions have the same identifier. -/
  | repeatedExtension
  /-- The version is neither the first nor the third. -/
  | unsupportedVersion
  /-- A list of names holds a kind of name that is not read. -/
  | unsupportedName
  deriving DecidableEq

/-- The report of a fault. -/
def Fault.message : Fault → String
  | unknownFeature => "'library error'"
  | _ => "library error"

end PeerName.X509

namespace PeerName

/-! ### Certificates -/

open Journal (Record)

/-- Why names could not be read. -/
inductive Fault where
  /-- The encoded certificate is faulty. -/
  | unreadable (cause : X509.Fault)
  /-- A value has the wrong kind. -/
  | mismatch (cause : Mismatch)
  /-- A look-up missed this key. -/
  | missingKey (key : Value)
  /-- The source of the names failed with an error of its own. -/
  | raised (kind text : String)

/-- The report of a fault. -/
def Fault.message : Fault → String
  | unreadable cause => cause.message
  | mismatch cause => cause.message
  | missingKey key => key.quoted
  | raised _ text => text

/-- What keeps the report of a fault from being written out at a desk: the key that was missed is
quoted in it. -/
def Fault.hindrance? [Limits] (desk : Desk) : Fault → Option Mismatch
  | missingKey key => desk.hindrance? [key]
  | _ => none

/-- The result of reading one place of a certificate. -/
structure Reading where
  outcome : Except Fault Value
  /-- What was logged while reading. -/
  log : List Record := []

/-- A certificate as seen by a decision. -/
structure Certificate where
  /-- Whether there are alternative DNS names. -/
  hasAltNames : Reading
  /-- The alternative DNS names. -/
  altNames : Reading
  /-- The common name of the subject, or null. -/
  commonName : Reading

/-- The places of a certificate that can be read. -/
inductive Accessor where
  | hasAltNames
  | altNames
  | commonName
  deriving DecidableEq

/-- The name of a place. -/
def Accessor.name : Accessor → String
  | hasAltNames => "has_subject_alt_names"
  | altNames => "subject_alt_dns_names"
  | commonName => "common_name"

/-- The reading of a place. -/
def Certificate.reading (c : Certificate) : Accessor → Reading
  | .hasAltNames => c.hasAltNames
  | .altNames => c.altNames
  | .commonName => c.commonName

/-- What comes of looking at a certificate: the places looked at in order, what was logged, and a
result unless some place was faulty. -/
structure Inspection (α : Type) where
  calls : List Accessor
  log : List Record
  outcome : Except Fault α

namespace Inspection

/-- A result without looking. -/
def pure {α : Type} (a : α) : Inspection α := ⟨[], [], .ok a⟩

/-- A second inspection that depends on the result of the first and is left out if the first
one failed. -/
def bind {α β : Type} (x : Inspection α) (f : α → Inspection β) : Inspection β :=
  match x.outcome with
  | .ok a => ⟨x.calls ++ (f a).calls, x.log ++ (f a).log, (f a).outcome⟩
  | .error e => ⟨x.calls, x.log, .error e⟩

instance : Monad Inspection where
  pure := pure
  bind := bind

/-- Writes a log record. -/
def report (r : Record) : Inspection Unit := ⟨[], [r], .ok ()⟩

/-- Ends an inspection by a fault. -/
def fail {α : Type} (e : Fault) : Inspection α := ⟨[], [], .error e⟩

/-- Goes on if these values can be written out in a message. -/
def quotable [Limits] (values : List Value) : Inspection Unit :=
  match Desk.names.hindrance? values with
  | some cause => fail (.mismatch cause)
  | none => pure ()

end Inspection

/-- Looks at one place of a certificate. -/
def Certificate.look (c : Certificate) (a : Accessor) : Inspection Value :=
  ⟨[a], (c.reading a).log, (c.reading a).outcome⟩

/-- The names that a certificate claims. -/
structure Names where
  altNames : Value
  commonName : Value
  hasAltNames : Value

/-- Looks at all places of a certificate. -/
def Certificate.names (c : Certificate) : Inspection Names := do
  let altNames ← c.look .altNames
  let commonName ← c.look .commonName
  let hasAltNames ← c.look .hasAltNames
  return { altNames, commonName, hasAltNames }

/-! ### Certificates held in memory -/

/-- Names given directly. -/
structure InMemory where
  dnsNames : List Value := []
  commonName : Value := .null

namespace InMemory

/-- Takes the members of a value as the names. -/
def ofValues (dnsNames commonName : Value) : Except Mismatch InMemory := do
  let names ← dnsNames.elements
  return { dnsNames := names, commonName }

/-- The certificate with these names. -/
def certificate (names : InMemory) : Certificate where
  hasAltNames := { outcome := .ok (.bool (!names.dnsNames.isEmpty)) }
  altNames := { outcome := .ok (.list names.dnsNames) }
  commonName := { outcome := .ok names.commonName }

/-- A one-line description. -/
def describe [Limits] (names : InMemory) : Except Mismatch String :=
  Desk.summary.write [.list names.dnsNames, names.commonName]
    ("StaticCertificate(dns_names=" ++ (Value.list names.dnsNames).quoted
      ++ ", common_name=" ++ names.commonName.quoted ++ ")")

end InMemory

end PeerName
