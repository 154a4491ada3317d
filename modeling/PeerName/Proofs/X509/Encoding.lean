import PeerName.Proofs.Der.Encoding
import PeerName.Proofs.Text.Utf8RoundTrip
import PeerName.X509.Load

/-!
# Writing certificates

A certificate with given names is written in the distinguished encoding: version, serial number,
issuer, subject, key and the rest, each in its place.  What says nothing about the names of the
subject can be anything well formed and is put together in a frame.  The subject is an organization
with or without a common name behind it; the alternative names are DNS names with addresses behind
them, and there is no extension where there are neither.

* `Frame` — the parts of a certificate that are not names of the subject, with their forms;
* `Address` — an address of either family;
* `subject`, `extensionFields` — the parts with names;
* `Frame.encode?` — the bytes of a certificate, if its lengths can be written;
* `subjectName`, `altNamesExtension` — what is to be read from them.
-/

namespace PeerName.X509

open Der (Element Tag node)

/-- An address of four or of sixteen bytes. -/
abbrev Address := { bytes : List UInt8 // bytes.length = 4 ∨ bytes.length = 16 }

/-- The identifier of the organization's name. -/
def organizationId : List UInt8 := [0x55, 0x04, 0x0a]

/-! ### The parts with names -/

/-- The value of an attribute that is a text. -/
def textValue (text : String) : Element := ⟨.utf8String, Utf8.encode text⟩

/-- A set of a single attribute. -/
def attributeSet (identifier : List UInt8) (text : String) : Element :=
  node .set [node .sequence [⟨.identifier, identifier⟩, textValue text]]

/-- The subject of a certificate. -/
def subject (organization : String) (commonName : Option String) : Element :=
  node .sequence (attributeSet organizationId organization ::
    (commonName.map (attributeSet commonNameId)).toList)

/-- The entries of the alternative names. -/
def altNameEntries (dns : List String) (addresses : List Address) : List Element :=
  dns.map (fun name => ⟨.context 2, Utf8.encode name⟩) ++
    addresses.map fun address => ⟨.context 7, address.val⟩

/-- The value of the extension with the alternative names. -/
def altNamesValue (dns : List String) (addresses : List Address) : Element :=
  node .sequence (altNameEntries dns addresses)

/-- The extension with the alternative names. -/
def altNamesElement (dns : List String) (addresses : List Address) : Element :=
  node .sequence
    [⟨.identifier, altNamesId⟩, ⟨.octetString, (altNamesValue dns addresses).bytes⟩]

/-- The field with the extensions, which is left out where there are no alternative names. -/
def extensionFields (dns : List String) (addresses : List Address) : List Element :=
  if dns.isEmpty && addresses.isEmpty then []
  else [node (.contextConstructed 3) [node .sequence [altNamesElement dns addresses]]]

/-! ### Certificates -/

/-- What a certificate holds besides the names of its subject: the contents of its other fields,
each of which is well formed. -/
structure Frame where
  serial : List UInt8
  signedAlgorithm : List UInt8
  issuer : List UInt8
  validity : List UInt8
  key : List UInt8
  algorithm : List UInt8
  signature : List UInt8
  /-- The name of the organization in the subject. -/
  organization : String
  isInteger_serial : Der.isInteger serial = true
  isAlgorithm_signedAlgorithm : isAlgorithm ⟨.sequence, signedAlgorithm⟩ = true
  isSome_issuer : (Name.ofElement? ⟨.sequence, issuer⟩).isSome = true
  isValidity_validity : isValidity ⟨.sequence, validity⟩ = true
  isKey_key : isKey ⟨.sequence, key⟩ = true
  isAlgorithm_algorithm : isAlgorithm ⟨.sequence, algorithm⟩ = true
  isBitString_signature : Der.isBitString signature = true

namespace Frame

variable (frame : Frame) (dns : List String) (commonName : Option String)
  (addresses : List Address)

/-- The version of a certificate, which is the third one. -/
def version : Element := node (.contextConstructed 0) [⟨.integer, [2]⟩]

/-- The fields of the signed part. -/
def fields : List Element :=
  version :: ⟨.integer, frame.serial⟩ :: ⟨.sequence, frame.signedAlgorithm⟩ ::
    ⟨.sequence, frame.issuer⟩ :: ⟨.sequence, frame.validity⟩ ::
    subject frame.organization commonName :: ⟨.sequence, frame.key⟩ ::
    extensionFields dns addresses

/-- The certificate. -/
def element : Element :=
  node .sequence [node .sequence (frame.fields dns commonName addresses),
    ⟨.sequence, frame.algorithm⟩, ⟨.bitString, frame.signature⟩]

/-- The bytes of a certificate.  There are none if they are too many for their length to be
written. -/
def encode? : Option (List UInt8) :=
  let e := frame.element dns commonName addresses
  if e.content.length < Der.lengthBound then some e.bytes else none

end Frame

/-! ### What is to be read -/

/-- The attribute with a text. -/
def textAttribute (identifier : List UInt8) (text : String) : Attribute :=
  ⟨identifier, textValue text⟩

/-- The subject as a name. -/
def subjectName (organization : String) (commonName : Option String) : Name :=
  [textAttribute organizationId organization] ::
    (commonName.map fun text => [textAttribute commonNameId text]).toList

/-- The extension with the alternative names. -/
def altNamesExtension (dns : List String) (addresses : List Address) : Extension where
  identifier := altNamesId
  critical := false
  value := (altNamesValue dns addresses).bytes

/-- The extensions of a certificate. -/
def extensions (dns : List String) (addresses : List Address) : List Extension :=
  if dns.isEmpty && addresses.isEmpty then [] else [altNamesExtension dns addresses]

/-- The alternative names. -/
def generalNames (dns : List String) (addresses : List Address) : List GeneralName :=
  dns.map .dns ++ addresses.map fun address => .ip address.val

end PeerName.X509
