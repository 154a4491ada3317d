import PeerName.Certificate.Basic
import PeerName.Value.Display
import PeerName.X509.Algorithm
import PeerName.X509.Extension

/-!
# Encoded certificates

The form of a certificate is checked in full when its bytes are read: the three parts, the fields
of the first part, the names, the times, the key and the extensions.  Signature, dates and key are
not looked at beyond their form.  The values of the extensions and of the subject are read when a
decision asks for names.

* `X509.Certificate` — the fields that are kept;
* `X509.Certificate.decode` — the certificate that bytes encode;
* `Certificate.ofLookups` — the names of a certificate, given its alternative DNS names and the
  common names of its subject;
* `X509.Certificate.certificate` — an encoded certificate as a source of names.
-/

namespace PeerName.X509

open Der (Element Tag)

/-- The fields of a certificate that are kept. -/
structure Certificate where
  subject : Name
  extensions : List Extension

/-! ### Form -/

/-- Whether an element is a bit string. -/
def isBits (e : Element) : Bool := e.tag == .bitString && Der.isBitString e.content

/-- Whether an element is a period of validity: two times. -/
def isValidity (e : Element) : Bool :=
  match e.inside? .sequence with
  | some [first, last] => first.isTime && last.isTime
  | _ => false

/-- Whether an element is a public key: an algorithm and bits. -/
def isKey (e : Element) : Bool :=
  match e.inside? .sequence with
  | some [algorithm, bits] => isAlgorithm algorithm && isBits bits
  | _ => false

/-- The version, which is the first one unless another one is given, and the elements behind it.
The first version is never written out. -/
def takeVersion (parts : List Element) : Option (Nat × List Element) :=
  match parts with
  | e :: rest =>
    if e.tag = .contextConstructed 0 then do
      let inner ← Der.single? e.content
      let content ← inner.content? .integer
      let version ← (Der.natural? content).filter (· < 256)
      if version = 0 then none else some (version, rest)
    else some (0, parts)
  | [] => some (0, [])

/-- The elements behind an optional unique identifier, which is a bit string under a tag of its
own. -/
def dropUniqueId (n : Nat) (parts : List Element) : Option (List Element) :=
  match parts with
  | e :: rest =>
    if e.tag = .context n then if Der.isBitString e.content then some rest else none
    else some parts
  | [] => some []

/-- The extensions at the end of the fields, and nothing behind them. -/
def extensions? (parts : List Element) : Option (List Extension) :=
  match parts with
  | [] => some []
  | [e] => do
    let content ← e.content? (.contextConstructed 3)
    let list ← Der.single? content
    let entries ← list.inside? .sequence
    entries.mapM Extension.ofElement?
  | _ => none

/-- The version and the kept fields of the first part of a certificate. -/
def fields? (parts : List Element) : Option (Nat × Certificate) := do
  let (version, parts) ← takeVersion parts
  match parts with
  | serial :: algorithm :: issuer :: validity :: subject :: key :: rest => do
    let _ ← Name.ofElement? issuer
    let subject ← Name.ofElement? subject
    let rest ← dropUniqueId 1 rest
    let rest ← dropUniqueId 2 rest
    let extensions ← extensions? rest
    if serial.tag == .integer && Der.isInteger serial.content && isAlgorithm algorithm
        && isValidity validity && isKey key then
      some (version, { subject, extensions })
    else none
  | _ => none

/-- The version and the kept fields of the certificate that bytes encode. -/
def parse? (bytes : List UInt8) : Option (Nat × Certificate) := do
  let e ← Der.single? bytes
  match ← e.inside? .sequence with
  | [signed, algorithm, signature] => do
    let parts ← signed.inside? .sequence
    if isAlgorithm algorithm && isBits signature then fields? parts else none
  | _ => none

/-- The certificate that bytes encode; it has the first or the third version. -/
def Certificate.decode (bytes : List UInt8) : Except Fault Certificate :=
  match parse? bytes with
  | none => .error .malformed
  | some (version, cert) =>
    if version = 0 ∨ version = 2 then .ok cert else .error .unsupportedVersion

/-! ### Names -/

/-- The alternative names, if there is an extension with them. -/
def Certificate.altNames? (cert : Certificate) : Except Fault (Option (List GeneralName)) :=
  X509.altNames? cert.extensions

/-- The common names of the subject, in order. -/
def Certificate.commonNames (cert : Certificate) : Except Fault (List Value) := do
  let sets ← Name.resolve cert.subject
  return (X509.commonNames sets).map fun
    | .text s => .text s
    | .bits content => .bytes content

/-- A one-line description. -/
def Certificate.describe (cert : Certificate) : Except Fault String := do
  let sets ← Name.resolve cert.subject
  return "X509Certificate(subject=" ++ Text.quoted (describeSets sets) ++ ")"

end PeerName.X509

namespace PeerName

/-- The name under which certificates are logged. -/
def certificateLogger : String := "peercert.security.certificate"

/-- The texts of the DNS names among alternative names. -/
def dnsNames (names : List X509.GeneralName) : List Value :=
  names.filterMap fun name => name.dns?.map .text

/-- The reading of the last common name.  One that is not a text is passed over with a log
record. -/
def commonNameReading (commonNames : List Value) : Reading :=
  match commonNames.getLast? with
  | none => { outcome := .ok .null }
  | some (.text s) => { outcome := .ok (.text s) }
  | some v =>
    { outcome := .ok .null
      log := [{ level := .debug, logger := certificateLogger,
                message := "Ignoring non-text commonName of type " ++ v.kind }] }

/-- A certificate whose alternative DNS names, if it has any, and whose common names are looked up
separately; either look-up can fail. -/
def Certificate.ofLookups (altNames : Except Fault (Option (List Value)))
    (commonNames : Except Fault (List Value)) : Certificate :=
  let names := altNames.map fun found => found.getD []
  { hasAltNames := { outcome := names.map fun names => .bool (!names.isEmpty) }
    altNames := { outcome := names.map .list }
    commonName := match commonNames with
      | .ok commonNames => commonNameReading commonNames
      | .error cause => { outcome := .error cause } }

/-- A certificate whose alternative names of all kinds and whose common names are looked up. -/
def Certificate.ofGeneralNames (altNames : Except Fault (Option (List X509.GeneralName)))
    (commonNames : Except Fault (List Value)) : Certificate :=
  .ofLookups (altNames.map (·.map dnsNames)) commonNames

/-- An encoded certificate as a source of names. -/
def X509.Certificate.certificate (cert : X509.Certificate) : PeerName.Certificate :=
  .ofGeneralNames (cert.altNames?.mapError .unreadable) (cert.commonNames.mapError .unreadable)

end PeerName
