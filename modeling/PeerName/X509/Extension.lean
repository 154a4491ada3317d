import PeerName.X509.GeneralName

/-!
# Extensions

An extension is an identifier with a value, which is encoded data.  It can be marked as critical.
Only the outer form is looked at when a certificate is read; the values are read later.  The values
of known extensions are then checked together: in their order, up to the first fault.  An unknown
extension can have any value.  No two extensions may have the same identifier.

* `Extension`, `Extension.ofElement?` — an extension, and the one that an element encodes;
* `readValue`, `demand` — what the value of an extension stands for, and what the format demands;
* `SubjectKey.check`, `IssuerKey.check` — which key is which;
* `KeyUse.check`, `KeyPurpose.check`, `SigningPeriod.check` — the uses of a key;
* `PathConstraint.check`, `NameConstraints.check`, `PolicyConstraint.check`, `AnyPolicy.check` — the
  constraints of an authority;
* `Distributions.check`, `Accesses.check` — where to find more;
* `Policies.check`, `Admissions.check` — policies, and admissions to a profession;
* `Features.check`, `Mark.check`, `CertificateTemplate.check` — features and marks;
* `Timestamps.check` — the confirmations of public logs;
* `knownExtensions`, `checkExtensions` — the checks of all extensions;
* `altNames?` — the alternative names among them.
-/

namespace PeerName.X509

open Der (Element Tag identifierOf)

/-- An extension. -/
structure Extension where
  identifier : List UInt8
  critical : Bool
  value : List UInt8
  deriving DecidableEq

/-- The extension that an element encodes.  That an extension is not critical is never written
out. -/
def Extension.ofElement? (e : Element) : Option Extension :=
  e.members? .sequence do
    let identifier ← Der.required (Element.formed? .identifier Der.isIdentifier)
    let mark ← Der.optionalFormed .boolean fun content => Der.boolean? content == some true
    let value ← Der.required (Element.content? · .octetString)
    return { identifier, critical := mark.isSome, value }

/-- What the value of an extension stands for: the value is a single element. -/
def readValue {α : Type} (read : Element → Option α) (value : List UInt8) : Except Fault α :=
  match (Der.single? value).bind read with
  | some a => .ok a
  | none => .error .malformed

/-- Asks for a condition that the format demands. -/
def demand (condition : Bool) : Except Fault Unit :=
  if condition then .ok () else .error .malformed

/-! ### Which key is which -/

/-- The check of the identifier of the subject's key. -/
def SubjectKey.check (value : List UInt8) : Except Fault Unit := do
  let _ ← readValue (Element.content? · .octetString) value

/-- The check of the identifier of the issuer's key: bytes, or the names of the issuer of its
certificate with the serial number of that certificate.  Neither of the last two stands alone. -/
def IssuerKey.check (value : List UInt8) : Except Fault Unit := do
  let (names, serial) ← readValue (Element.members? .sequence do
    let _ ← Der.optional (· == .context 0) (Element.content? · (.context 0))
    let names ← Der.optional (· == .contextConstructed 1)
      (generalNames? (.contextConstructed 1))
    let serial ← Der.optionalFormed (.context 2) fun content => (Der.natural? content).isSome
    return (names, serial)) value
  checkNames (names.getD [])
  demand (names.isSome == serial.isSome)

/-! ### Uses of a key -/

/-- The bit for agreeing on keys. -/
def agreementBit : Nat := 4

/-- The bits for agreeing on keys in one direction only. -/
def directionBits : List Nat := [7, 8]

/-- The check of a set of uses.  Agreement in one direction is agreement. -/
def KeyUse.check (value : List UInt8) : Except Fault Unit := do
  let bits ← readValue (Element.formed? .bitString Der.isBitString) value
  demand (Der.hasBit bits agreementBit || !directionBits.any (Der.hasBit bits))

/-- The check of a list of purposes, which is not empty. -/
def KeyPurpose.check (value : List UInt8) : Except Fault Unit := do
  let purposes ← readValue
    (Element.listOf? .sequence (Element.formed? .identifier Der.isIdentifier)) value
  demand !purposes.isEmpty

/-- Whether a content is a time in a year of the calendar, which has no year zero. -/
def isCalendarTime (content : List UInt8) : Bool :=
  Der.isLongTime content && content.take 4 != [0x30, 0x30, 0x30, 0x30]

/-- The check of a period of signing.  It has a begin or an end, and does not end before it
begins. -/
def SigningPeriod.check (value : List UInt8) : Except Fault Unit := do
  let (first, last) ← readValue (Element.members? .sequence do
    let first ← Der.optionalFormed (.context 0) isCalendarTime
    let last ← Der.optionalFormed (.context 1) isCalendarTime
    return (first, last)) value
  match first, last with
  | none, none => .error .malformed
  | some first, some last => demand (bytesLe first last)
  | _, _ => .ok ()

/-! ### Constraints of an authority -/

/-- The check of the mark of an authority and the greatest length of a path below it, both of which
can be missing.  There is no length without the mark.  That there is no mark is never written
out. -/
def PathConstraint.check (value : List UInt8) : Except Fault Unit := do
  let (mark, length) ← readValue (Element.members? .sequence do
    let mark ← Der.optionalFormed .boolean fun content => Der.boolean? content == some true
    let length ← Der.optional (· == .integer) (Element.natural? .integer (Nat.pow 2 64))
    return (mark, length)) value
  demand (mark.isSome || length.isNone)

/-- The name at the top of a subtree.  The depths between which the subtree counts can be given;
that it counts from the top is never written out. -/
def subtree? (e : Element) : Option GeneralName :=
  e.members? .sequence do
    let name ← Der.required GeneralName.ofElement?
    let _ ← Der.optionalFormed (.context 0) fun content =>
      (Der.natural? content).any fun n => n != 0 && n < Nat.pow 2 64
    let _ ← Der.optionalFormed (.context 1) fun content =>
      (Der.natural? content).any (· < Nat.pow 2 64)
    return name

/-- Whether a DNS name has a wildcard. -/
def GeneralName.hasWildcard (name : GeneralName) : Bool :=
  name.dns?.any fun text => text.toList.contains '*'

/-- The check of the names at the tops of subtrees: there is one at least, an address belongs to
a network, and no DNS name has a wildcard. -/
def checkSubtrees (names : List GeneralName) : Except Fault Unit := do
  demand !names.isEmpty
  if names.any (·.isSingleAddress) then throw .notNetwork
  demand !(names.any (·.hasWildcard))

/-- The check of the names that an authority can use and those that it cannot use.  At least one
of the two is given. -/
def NameConstraints.check (value : List UInt8) : Except Fault Unit := do
  let list (n : Nat) := Der.optional (· == .contextConstructed n)
    (Element.listOf? (.contextConstructed n) subtree?)
  let (permitted, excluded) ← readValue (Element.members? .sequence do
    let permitted ← list 0
    let excluded ← list 1
    return (permitted, excluded)) value
  checkNames (permitted.getD [])
  checkNames (excluded.getD [])
  permitted.forM checkSubtrees
  excluded.forM checkSubtrees
  demand (permitted.isSome || excluded.isSome)

/-- The check of the lengths of a path after which policies have to be stated and can no longer be
exchanged.  At least one of the two is given. -/
def PolicyConstraint.check (value : List UInt8) : Except Fault Unit := do
  let length (n : Nat) := Der.optionalFormed (.context n) fun content =>
    (Der.natural? content).any (· < Nat.pow 2 64)
  let (stated, exchanged) ← readValue (Element.members? .sequence do
    let stated ← length 0
    let exchanged ← length 1
    return (stated, exchanged)) value
  demand (stated.isSome || exchanged.isSome)

/-- The check of the length of a path after which no policy stands for any other. -/
def AnyPolicy.check (value : List UInt8) : Except Fault Unit := do
  let _ ← readValue (Element.formed? .integer fun content => (Der.natural? content).isSome) value

/-! ### Where to find more -/

/-- The name of a place: a list of full names, or attributes that are added to the name of the
issuer. -/
inductive PlaceName where
  | full (names : List GeneralName)
  | relative (attributes : List Attribute)

/-- The place of a list of revoked certificates. -/
structure Distribution where
  name : Option PlaceName
  issuer : Option (List GeneralName)

/-- The name of a place. -/
def placeName? (e : Element) : Option PlaceName :=
  if e.tag = .contextConstructed 0 then
    (generalNames? (.contextConstructed 0) e).map .full
  else (attributeSet? (.contextConstructed 1) e).map .relative

/-- The place of a list of revoked certificates: its name, the reasons of revocation that the list
covers, and the issuer of the list. -/
def distribution? (e : Element) : Option Distribution :=
  e.members? .sequence do
    let name ← Der.optional (· == .contextConstructed 0)
      (Element.enclosed? (.contextConstructed 0) placeName?)
    let _ ← Der.optionalFormed (.context 1) Der.isBitString
    let issuer ← Der.optional (· == .contextConstructed 2)
      (generalNames? (.contextConstructed 2))
    return { name, issuer }

/-- The check of a place: its names can be read, and it has a name or an issuer. -/
def Distribution.check (d : Distribution) : Except Fault Unit := do
  let isNamed ← match d.name with
    | none => pure false
    | some (.full names) => do
      checkNames names
      pure !names.isEmpty
    | some (.relative attributes) => do
      let _ ← resolveSet attributes
      pure true
  let issuer := d.issuer.getD []
  checkNames issuer
  demand (isNamed || !issuer.isEmpty)

/-- The check of the places of lists of revoked certificates. -/
def Distributions.check (value : List UInt8) : Except Fault Unit := do
  let places ← readValue (Element.listOf? .sequence distribution?) value
  places.forM (·.check)

/-- The place of information: how it is accessed, and its name. -/
def access? (e : Element) : Option GeneralName :=
  e.members? .sequence do
    let _ ← Der.required (Element.formed? .identifier Der.isIdentifier)
    Der.required GeneralName.ofElement?

/-- The check of the places of information. -/
def Accesses.check (value : List UInt8) : Except Fault Unit := do
  let names ← readValue (Element.listOf? .sequence access?) value
  checkNames names

/-! ### Texts for people -/

/-- The string types of texts for people, with their forms. -/
def wordingForms : List (Tag × (List UInt8 → Bool)) :=
  [(.ia5String, Der.isAscii), (.utf8String, fun content => (Utf8.decode? content).isSome),
   (.visibleString, Der.isVisible), (.bmpString, fun content => (Der.utf16Text? content).isSome)]

/-- Whether a tag is that of a text for people. -/
def hasWordingTag (tag : Tag) : Bool := wordingForms.any (·.1 == tag)

/-- The content of a text for people. -/
def wording? (e : Element) : Option (List UInt8) :=
  (wordingForms.lookup e.tag).bind fun form => e.formed? e.tag form

/-! ### Policies of a certificate -/

/-- The reference of a notice: an organization, and numbers of notices. -/
def noticeReference? (e : Element) : Option Unit :=
  e.members? .sequence do
    let _ ← Der.required wording?
    let _ ← Der.required (Element.listOf? .sequence
      (Element.formed? .integer fun content => (Der.natural? content).isSome))

/-- A notice: a reference and a text, both of which can be missing. -/
def notice? (e : Element) : Option Unit :=
  e.members? .sequence do
    let _ ← Der.optional (· == .sequence) noticeReference?
    let _ ← Der.optional hasWordingTag wording?

/-- The identifier of a pointer to the text of a policy. -/
def pointerId : List UInt8 := identifierOf [1, 3, 6, 1, 5, 5, 7, 2, 1]

/-- The identifier of a notice. -/
def noticeId : List UInt8 := identifierOf [1, 3, 6, 1, 5, 5, 7, 2, 2]

/-- A qualifier of a policy: its kind, and what that kind asks for. -/
def qualifier? (e : Element) : Option Unit :=
  e.members? .sequence do
    let kind ← Der.required (Element.formed? .identifier Der.isIdentifier)
    if kind = pointerId then
      let _ ← Der.required (Element.formed? .ia5String Der.isAscii)
    else if kind = noticeId then Der.required notice?
    else failure

/-- A policy with its qualifiers. -/
def policy? (e : Element) : Option Unit :=
  e.members? .sequence do
    let _ ← Der.required (Element.formed? .identifier Der.isIdentifier)
    let _ ← Der.optional (· == .sequence) (Element.listOf? .sequence qualifier?)

/-- The check of the policies of a certificate. -/
def Policies.check (value : List UInt8) : Except Fault Unit := do
  let _ ← readValue (Element.listOf? .sequence policy?) value

/-! ### Admissions to a profession -/

/-- Who names a profession: an identifier, a place and a text, all of which can be missing. -/
def namingAuthority? (e : Element) : Option Unit :=
  e.members? .sequence do
    let _ ← Der.optionalFormed .identifier Der.isIdentifier
    let _ ← Der.optionalFormed .ia5String Der.isAscii
    let _ ← Der.optional hasWordingTag wording?

/-- A group of professions: who names them, their names and identifiers, a number of registration,
and further information. -/
def profession? (e : Element) : Option Unit :=
  e.members? .sequence do
    let _ ← Der.optional (· == .contextConstructed 0)
      (Element.enclosed? (.contextConstructed 0) namingAuthority?)
    let _ ← Der.required (Element.listOf? .sequence wording?)
    let _ ← Der.optional (· == .sequence)
      (Element.listOf? .sequence (Element.formed? .identifier Der.isIdentifier))
    let _ ← Der.optionalFormed .printableString Der.isPrintableString
    let _ ← Der.optional (· == .octetString) (Element.content? · .octetString)

/-- An admission to groups of professions: the authority that gives it. -/
def admission? (e : Element) : Option (Option GeneralName) :=
  e.members? .sequence do
    let authority ← Der.optional (· == .contextConstructed 0)
      (Element.enclosed? (.contextConstructed 0) GeneralName.ofElement?)
    let _ ← Der.optional (· == .contextConstructed 1)
      (Element.enclosed? (.contextConstructed 1) namingAuthority?)
    let _ ← Der.required (Element.listOf? .sequence profession?)
    return authority

/-- The check of the admissions of a subject. -/
def Admissions.check (value : List UInt8) : Except Fault Unit := do
  let (authority, given) ← readValue (Element.members? .sequence do
    let authority ← Der.optional GeneralName.isTag GeneralName.ofElement?
    let given ← Der.required (Element.listOf? .sequence admission?)
    return (authority, given)) value
  checkNames (authority.toList ++ given.filterMap id)

/-! ### Features and marks -/

/-- The numbers of the known features. -/
def knownFeatures : List Nat := [5, 17]

/-- The check of a list of features, which are known and of which there is one at least. -/
def Features.check (value : List UInt8) : Except Fault Unit := do
  let features ← readValue
    (Element.listOf? .sequence (Element.natural? .integer (Nat.pow 2 64))) value
  if !features.all knownFeatures.contains then throw .unknownFeature
  if features.isEmpty then throw .noFeature

/-- The check of a mark: its value is a null. -/
def Mark.check (value : List UInt8) : Except Fault Unit := do
  let _ ← readValue (Element.formed? .null (·.isEmpty)) value

/-- The check of a template: its identifier, and two parts of its version, which can be
missing. -/
def CertificateTemplate.check (value : List UInt8) : Except Fault Unit := do
  let version := Der.optional (· == .integer) (Element.natural? .integer (Nat.pow 2 32))
  readValue (Element.members? .sequence do
    let _ ← Der.required (Element.formed? .identifier Der.isIdentifier)
    let _ ← version
    let _ ← version) value

/-! ### Time stamps of public logs -/

/-- The bytes of a part that is preceded by its length, and the bytes behind it. -/
def cutPart? (bytes : List UInt8) : Option (List UInt8 × List UInt8) :=
  match bytes with
  | a :: b :: rest =>
    let length := a.toNat * 256 + b.toNat
    if rest.length < length then none else some (rest.take length, rest.drop length)
  | _ => none

/-- The length of the identifier of a log and of a point in time. -/
def stampHeadLength : Nat := 32 + 8

/-- Whether bytes are a confirmation: the first version, the log, the time, extensions, a digest
and a kind of signature, and the signature. -/
def isStamp (bytes : List UInt8) : Bool :=
  match bytes with
  | [] => false
  | version :: rest =>
    if version ≠ 0 ∨ rest.length < stampHeadLength then false
    else match cutPart? (rest.drop stampHeadLength) with
      | some (_, digest :: kind :: rest) =>
        1 ≤ digest && digest ≤ 6 && kind ≤ 3 && (cutPart? rest).any (·.2.isEmpty)
      | _ => false

/-- Whether bytes are confirmations, each preceded by its length; `fuel` bounds their number. -/
def areStamps : Nat → List UInt8 → Bool
  | _, [] => true
  | 0, _ :: _ => false
  | fuel + 1, bytes =>
    match cutPart? bytes with
    | some (stamp, rest) => isStamp stamp && areStamps fuel rest
    | none => false

/-- The check of the confirmations.  Nothing is asked of the bytes behind the list. -/
def Timestamps.check (value : List UInt8) : Except Fault Unit := do
  let content ← readValue (Element.content? · .octetString) value
  demand ((cutPart? content).any fun (list, _) => areStamps list.length list)

/-! ### Known extensions -/

/-- The identifier of the extensions of the standard with this number. -/
def standardId (n : Nat) : List UInt8 := identifierOf [2, 5, 29, n]

/-- The identifier of the extension with the alternative names of the subject. -/
def altNamesId : List UInt8 := standardId 17

/-- The check of a list of names. -/
def Names.check (value : List UInt8) : Except Fault Unit := do
  let names ← readValue (generalNames? .sequence) value
  checkNames names

/-- The checks of the known extensions. -/
def knownExtensions : List (List UInt8 × (List UInt8 → Except Fault Unit)) :=
  [(standardId 14, SubjectKey.check),
   (standardId 15, KeyUse.check),
   (standardId 16, SigningPeriod.check),
   (altNamesId, Names.check),
   (standardId 18, Names.check),
   (standardId 19, PathConstraint.check),
   (standardId 30, NameConstraints.check),
   (standardId 31, Distributions.check),
   (standardId 32, Policies.check),
   (standardId 35, IssuerKey.check),
   (standardId 36, PolicyConstraint.check),
   (standardId 37, KeyPurpose.check),
   (standardId 46, Distributions.check),
   (standardId 54, AnyPolicy.check),
   (identifierOf [1, 3, 6, 1, 5, 5, 7, 1, 1], Accesses.check),
   (identifierOf [1, 3, 6, 1, 5, 5, 7, 1, 11], Accesses.check),
   (identifierOf [1, 3, 6, 1, 5, 5, 7, 1, 24], Features.check),
   (identifierOf [1, 3, 6, 1, 5, 5, 7, 48, 1, 5], Mark.check),
   (identifierOf [1, 3, 6, 1, 4, 1, 11129, 2, 4, 2], Timestamps.check),
   (identifierOf [1, 3, 6, 1, 4, 1, 11129, 2, 4, 3], Mark.check),
   (identifierOf [1, 3, 6, 1, 4, 1, 311, 21, 7], CertificateTemplate.check),
   (identifierOf [1, 3, 36, 8, 3, 3], Admissions.check)]

/-- The check of an extension. -/
def Extension.check (e : Extension) : Except Fault Unit :=
  match knownExtensions.lookup e.identifier with
  | some check => check e.value
  | none => .ok ()

/-- The check of all extensions. -/
def checkExtensions (extensions : List Extension) : Except Fault Unit :=
  if allDistinct (extensions.map (·.identifier)) then extensions.forM (·.check)
  else .error .repeatedExtension

/-- The alternative names of the subject, if there is an extension with them. -/
def altNames? (extensions : List Extension) : Except Fault (Option (List GeneralName)) := do
  checkExtensions extensions
  (extensions.find? (·.identifier == altNamesId)).mapM fun e =>
    readValue (generalNames? .sequence) e.value

end PeerName.X509
