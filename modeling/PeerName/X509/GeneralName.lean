import PeerName.X509.Name

/-!
# Alternative names

A certificate lists identities of its subject in an extension, and some other extensions list
identities as well.  There are nine kinds of them; only DNS names matter for hosts, but every entry
has to be well formed for a list to be read.

* `GeneralName` — an identity;
* `GeneralName.ofElement?` — the identity that an element encodes;
* `GeneralName.check` — what is asked of an entry beyond its form;
* `generalNames?` — a list of identities;
* `checkNames` — what is asked of the entries of a list.
-/

namespace PeerName.X509

open Der (Element Tag)

/-- An identity of a subject. -/
inductive GeneralName where
  | dns (name : String)
  | email (address : String)
  | uri (text : String)
  | ip (address : List UInt8)
  | directory (name : Name)
  | registeredId (identifier : List UInt8)
  | other (identifier : List UInt8)
  /-- One of the two kinds that are not read. -/
  | unsupported

/-- The kind-specific identity in an element: an identifier and an enclosed value. -/
def otherName? (e : Element) : Option GeneralName :=
  e.members? (.contextConstructed 0) do
    let identifier ← Der.required (Element.formed? .identifier Der.isIdentifier)
    let _ ← Der.required (Element.enclosed? (.contextConstructed 0) some)
    return .other identifier

/-- The tags of identities. -/
def nameTags : List Tag :=
  [.contextConstructed 0, .context 1, .context 2, .contextConstructed 3, .contextConstructed 4,
   .contextConstructed 5, .context 6, .context 7, .context 8]

/-- Whether a tag is that of an identity. -/
def GeneralName.isTag (tag : Tag) : Bool := nameTags.contains tag

/-- The identity that an element encodes. -/
def GeneralName.ofElement? (e : Element) : Option GeneralName :=
  if e.tag = .contextConstructed 0 then otherName? e
  else if e.tag = .context 1 then (Utf8.decode? e.content).map email
  else if e.tag = .context 2 then (Utf8.decode? e.content).map dns
  else if e.tag = .contextConstructed 3 then some unsupported
  else if e.tag = .contextConstructed 4 then
    (e.enclosed? (.contextConstructed 4) Name.ofElement?).map directory
  else if e.tag = .contextConstructed 5 then some unsupported
  else if e.tag = .context 6 then (Utf8.decode? e.content).map uri
  else if e.tag = .context 7 then some (ip e.content)
  else if e.tag = .context 8 then (e.formed? (.context 8) Der.isIdentifier).map registeredId
  else none

/-- The bits of bytes. -/
def bitsOf (bytes : List UInt8) : List Bool :=
  bytes.flatMap fun b => (List.range 8).map fun i => b.toNat.testBit (7 - i)

/-- Whether bytes are an address, or an address of a network with its mask: the mask is ones
followed by zeros, and the address is zero wherever the mask is. -/
def isAddress (bytes : List UInt8) : Bool :=
  let n := bytes.length
  if n = 4 ∨ n = 16 then true
  else if n = 8 ∨ n = 32 then
    let mask := bitsOf (bytes.drop (n / 2))
    let address := bitsOf (bytes.take (n / 2))
    let ones := (mask.takeWhile id).length
    !(mask.drop ones).any id && !(address.drop ones).any id
  else false

/-- What is asked of an entry when the list is looked at. -/
def GeneralName.check : GeneralName → Except Fault Unit
  | ip address => if isAddress address then .ok () else .error .malformed
  | directory name => (Name.resolve name).map fun _ => ()
  | unsupported => .error .unsupportedName
  | _ => .ok ()

/-- The text of a DNS name. -/
def GeneralName.dns? : GeneralName → Option String
  | dns name => some name
  | _ => none

/-- Whether a name is an address that stands for itself alone. -/
def GeneralName.isSingleAddress : GeneralName → Bool
  | ip address => address.length = 4 ∨ address.length = 16
  | _ => false

/-- The list of identities in an element with this tag. -/
def generalNames? (tag : Tag) (e : Element) : Option (List GeneralName) :=
  e.listOf? tag GeneralName.ofElement?

/-- What is asked of the entries of a list when it is looked at. -/
def checkNames (names : List GeneralName) : Except Fault Unit := names.forM GeneralName.check

end PeerName.X509
