import PeerName.Der.Members

/-!
# Algorithms

An algorithm is an identifier with parameters.  Which parameters there are depends on the
identifier; those of an unknown algorithm are one element of any kind at most.

* `ParameterForm` — the forms of parameters;
* `parameterForm` — the form that an algorithm asks for;
* `isAlgorithm` — whether an element is an algorithm with parameters of its form.
-/

namespace PeerName.X509

open Der (Element Members Tag identifierOf)

/-- The forms of parameters. -/
inductive ParameterForm where
  /-- No parameters. -/
  | absent
  /-- No parameters, or a null. -/
  | nullable
  /-- A curve: its identifier, a null if it is inherited, or its description. -/
  | curve
  /-- Two primes and a generator. -/
  | signatureGroup
  /-- A prime and a generator, and the length of the exponent if it is limited. -/
  | agreementGroup
  /-- A prime, a generator and the order of the group, with the way they were found. -/
  | verifiedGroup
  /-- The parts of a signature scheme with a salt: digest, mask, and length of the salt. -/
  | salted
  /-- A first block of this many bytes. -/
  | block (size : Nat)
  /-- A version and a first block of eight bytes. -/
  | versionedBlock
  /-- A way to derive a key from a password, and a cipher. -/
  | passwordScheme
  /-- Salt, count of iterations, length of the key, and pseudorandom function. -/
  | iteratedKey
  /-- Salt, three costs, and length of the key. -/
  | costlyKey
  /-- A salt, of this many bytes if that is fixed, and a count of iterations. -/
  | saltAndCount (size : Option Nat)
  /-- One element of any kind, or none. -/
  | any
  deriving DecidableEq

/-! ### Identifiers -/

/-- The algorithms of the first family for public keys. -/
def rsa (n : Nat) : List UInt8 := identifierOf [1, 2, 840, 113549, 1, 1, n]

/-- The signatures on curves with digests of the second generation. -/
def curveSignature (n : Nat) : List UInt8 := identifierOf [1, 2, 840, 10045, 4, 3, n]

/-- The algorithms of a standards institute: a branch, and a number in it. -/
def instituteAlgorithm (branch n : Nat) : List UInt8 :=
  identifierOf [2, 16, 840, 1, 101, 3, 4, branch, n]

/-- The key exchanges and signatures on two special curves. -/
def specialCurve (n : Nat) : List UInt8 := identifierOf [1, 3, 101, n]

/-- The schemes with passwords of one vendor. -/
def passwordAlgorithm (n : Nat) : List UInt8 := identifierOf [1, 2, 840, 113549, 1, 5, n]

/-- The keyed digests of one vendor. -/
def keyedDigest (n : Nat) : List UInt8 := identifierOf [1, 2, 840, 113549, 2, n]

/-- The digest of 160 bits. -/
def shortDigest : List UInt8 := identifierOf [1, 3, 14, 3, 2, 26]

/-- The algorithms with parameters of a form of their own. -/
def structuredAlgorithms : List (List UInt8 × ParameterForm) :=
  [(identifierOf [1, 2, 840, 10045, 2, 1], .curve),
   (rsa 10, .salted),
   (identifierOf [1, 2, 840, 10040, 4, 1], .signatureGroup),
   (identifierOf [1, 2, 840, 10046, 2, 1], .verifiedGroup),
   (identifierOf [1, 2, 840, 113549, 1, 3, 1], .agreementGroup),
   (instituteAlgorithm 1 2, .block 16),
   (instituteAlgorithm 1 22, .block 16),
   (instituteAlgorithm 1 42, .block 16),
   (identifierOf [1, 2, 840, 113549, 3, 7], .block 8),
   (identifierOf [1, 2, 840, 113549, 3, 2], .versionedBlock),
   (passwordAlgorithm 13, .passwordScheme),
   (passwordAlgorithm 12, .iteratedKey),
   (identifierOf [1, 3, 6, 1, 4, 1, 11591, 4, 11], .costlyKey),
   (passwordAlgorithm 3, .saltAndCount (some 8)),
   (identifierOf [1, 2, 840, 113549, 1, 12, 1, 3], .saltAndCount none),
   (identifierOf [1, 2, 840, 113549, 1, 12, 1, 6], .saltAndCount none)]

/-- The algorithms without parameters. -/
def bareAlgorithms : List (List UInt8) :=
  [110, 111, 112, 113].map specialCurve ++ [1, 2, 3, 4].map curveSignature
    ++ [1, 2, 3, 4, 9, 10, 11, 12, 17, 18, 19].map (instituteAlgorithm 3)

/-- The algorithms that can have a null in the place of parameters. -/
def nullableAlgorithms : List (List UInt8) :=
  [shortDigest, identifierOf [1, 3, 14, 3, 2, 29]]
    ++ [1, 5, 11, 12, 13, 14].map rsa
    ++ [1, 2, 3, 4, 7, 8, 9, 10].map (instituteAlgorithm 2)
    ++ [13, 14, 15, 16].map (instituteAlgorithm 3)
    ++ [7, 8, 9, 10, 11].map keyedDigest

/-- The form of parameters that an algorithm asks for. -/
def parameterForm (identifier : List UInt8) : ParameterForm :=
  match structuredAlgorithms.lookup identifier with
  | some form => form
  | none =>
    if bareAlgorithms.contains identifier then .absent
    else if nullableAlgorithms.contains identifier then .nullable
    else .any

/-! ### Parameters -/

/-- Whether an element is a null. -/
def isNull (e : Element) : Bool := e.tag == .null && e.content.isEmpty

/-- Whether an element is an identifier. -/
def isIdentifier (e : Element) : Bool := (e.formed? .identifier Der.isIdentifier).isSome

/-- A natural number of any size. -/
def anyNatural : Members (List UInt8) :=
  Der.required (Element.formed? .integer fun content => (Der.natural? content).isSome)

/-- A natural number of at most so many bits. -/
def natural (bits : Nat) : Members Nat :=
  Der.required (Element.natural? .integer (Nat.pow 2 bits))

/-- A natural number of at most so many bits that may be missing. -/
def naturalIfAny (bits : Nat) : Members (Option Nat) :=
  Der.optional (· == .integer) (Element.natural? .integer (Nat.pow 2 bits))

/-- Bytes, of which there are so many if that is fixed. -/
def octets (size : Option Nat) : Members (List UInt8) :=
  Der.required (Element.formed? .octetString fun content => size.all (content.length == ·))

/-- The element itself, if it passes a test. -/
def passing (test : Element → Bool) (e : Element) : Option Element := some e |>.filter test

/-- An element that passes a test. -/
def tested (test : Element → Bool) : Members Element := Der.required (passing test)

/-- Whether an element is a sequence of these members. -/
def isSequenceOf {α : Type} (members : Members α) (e : Element) : Bool :=
  (e.members? .sequence members).isSome

/-- The digest of 160 bits as an algorithm. -/
def shortDigestElement : List Element := [⟨.identifier, shortDigest⟩, ⟨.null, []⟩]

/-- The identifier of the mask that is made with a digest. -/
def maskIdentifier : List UInt8 := rsa 8

/-- Whether an element is a mask, that is an identifier with an algorithm.  The one with the digest
of 160 bits is never written out. -/
def isMask (isAlgorithm : Element → Bool) (e : Element) : Bool :=
  match e.inside? .sequence with
  | some [identifier, algorithm] =>
    isIdentifier identifier && isAlgorithm algorithm
      && !(identifier.content == maskIdentifier
        && algorithm.inside? .sequence == some shortDigestElement)
  | _ => false

/-- An optional member that is enclosed in an element with a tag of its own and passes a test. -/
def enclosedIfAny (n : Nat) (test : Element → Bool) : Members (Option Element) :=
  Der.optional (· == .contextConstructed n) (Element.enclosed? (.contextConstructed n)
    (passing test))

/-- The parts of a signature scheme with a salt.  A digest of 160 bits and a salt of 20 bytes are
never written out. -/
def saltedScheme (isAlgorithm : Element → Bool) : Members Unit := do
  let _ ← enclosedIfAny 0 fun e =>
    isAlgorithm e && !(e.inside? .sequence == some shortDigestElement)
  let _ ← enclosedIfAny 1 (isMask isAlgorithm)
  let _ ← enclosedIfAny 2 fun e => (e.natural? .integer (Nat.pow 2 16)).any (· != 20)
  let _ ← enclosedIfAny 3 fun e => (e.natural? .integer (Nat.pow 2 8)).isSome

/-- The pseudorandom function that is never written out. -/
def commonFunctionElement : List Element := [⟨.identifier, keyedDigest 7⟩, ⟨.null, []⟩]

/-- Salt, count of iterations, length of the key, and pseudorandom function. -/
def iteratedKey (isAlgorithm : Element → Bool) : Members Unit := do
  let _ ← octets none
  let _ ← natural 64
  let _ ← naturalIfAny 64
  let _ ← Der.optional (· == .sequence) (passing fun e =>
    isAlgorithm e && !(e.inside? .sequence == some commonFunctionElement))

/-- Salt, three costs, and length of the key. -/
def costlyKey : Members Unit := do
  let _ ← octets none
  let _ ← natural 64
  let _ ← natural 64
  let _ ← natural 64
  let _ ← naturalIfAny 32

/-- A prime, a generator and the order of the group, with the way they were found. -/
def verifiedGroup : Members Unit := do
  let _ ← anyNatural
  let _ ← anyNatural
  let _ ← anyNatural
  let _ ← Der.optional (· == .integer)
    (Element.formed? .integer fun content => (Der.natural? content).isSome)
  let _ ← Der.optional (· == .sequence) some

/-- Whether an element has the form of parameters, given what an algorithm is. -/
def ParameterForm.admits (isAlgorithm : Element → Bool) (e : Element) : ParameterForm → Bool
  | absent => false
  | nullable => isNull e
  | curve => isIdentifier e || isNull e || e.tag == .sequence
  | signatureGroup => isSequenceOf (do let _ ← anyNatural; let _ ← anyNatural; anyNatural) e
  | agreementGroup => isSequenceOf (do let _ ← anyNatural; let _ ← anyNatural; naturalIfAny 32) e
  | verifiedGroup => isSequenceOf X509.verifiedGroup e
  | salted => isSequenceOf (saltedScheme isAlgorithm) e
  | block size => e.tag == .octetString && e.content.length == size
  | versionedBlock => isSequenceOf (do let _ ← naturalIfAny 32; octets (some 8)) e
  | passwordScheme => isSequenceOf (do let _ ← tested isAlgorithm; tested isAlgorithm) e
  | iteratedKey => isSequenceOf (X509.iteratedKey isAlgorithm) e
  | costlyKey => isSequenceOf X509.costlyKey e
  | saltAndCount size => isSequenceOf (do let _ ← octets size; natural 64) e
  | any => true

/-- Whether parameters of a form can be missing. -/
def ParameterForm.isOptional : ParameterForm → Bool
  | absent | nullable | salted | any => true
  | _ => false

/-- Whether an element is an algorithm with parameters of its form, where algorithms inside
parameters go down to a depth. -/
def isAlgorithmWithin : Nat → Element → Bool
  | 0, _ => false
  | depth + 1, e =>
    match e.inside? .sequence with
    | some [identifier] => isIdentifier identifier && (parameterForm identifier.content).isOptional
    | some [identifier, parameters] =>
      isIdentifier identifier
        && (parameterForm identifier.content).admits (isAlgorithmWithin depth) parameters
    | _ => false

/-- Whether an element is an algorithm with parameters of its form. -/
def isAlgorithm (e : Element) : Bool := isAlgorithmWithin (e.content.length + 1) e

end PeerName.X509
