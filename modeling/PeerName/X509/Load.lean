import PeerName.Pem.Block
import PeerName.Storage.Folder
import PeerName.X509.Certificate

/-!
# Certificates from bytes and files

A certificate is given either in its encoded form or as an armoured block.  Which of the two it
is, is seen by whether the bytes hold the opening line of a block anywhere.

* `X509.Certificate.ofPem` — the certificate in the first block that holds one;
* `X509.Certificate.load` — the certificate in either form;
* `X509.pemValue`, `X509.derValue`, `X509.loadValue` — the same for values of any kind;
* `X509.Certificate.ofFile` — the certificate in the file under a path;
* `X509.FileFault` — why there is none.
-/

namespace PeerName.X509

/-- The labels of blocks that hold certificates. -/
def certificateLabels : List String := ["CERTIFICATE", "X509 CERTIFICATE"]

/-- The certificate in the first block that holds one. -/
def Certificate.ofPem (bytes : List UInt8) : Except Fault Certificate :=
  match (Pem.blocks? bytes).bind fun blocks =>
      blocks.find? fun block => certificateLabels.contains block.label with
  | some block => Certificate.decode block.data
  | none => .error .malformed

/-- The line by which the armoured form is recognised. -/
def pemMarker : List UInt8 := Pem.ascii "-----BEGIN CERTIFICATE-----"

/-- Whether bytes occur somewhere in others. -/
def occursIn (part : List UInt8) : List UInt8 → Bool
  | [] => part.isEmpty
  | b :: rest => part.isPrefixOf (b :: rest) || occursIn part rest

/-- The certificate in encoded or in armoured form. -/
def Certificate.load (bytes : List UInt8) : Except Fault Certificate :=
  if occursIn pemMarker bytes then Certificate.ofPem bytes else Certificate.decode bytes

/-- The certificate in the armoured form that a value holds, as text or as bytes. -/
def pemValue : Value → Except PeerName.Fault Certificate
  | .text s => (Certificate.ofPem (Utf8.encode s)).mapError .unreadable
  | .bytes b => (Certificate.ofPem b).mapError .unreadable
  | _ => .error (.mismatch .undecodable)

/-- The certificate in encoded form that a value holds. -/
def derValue : Value → Except PeerName.Fault Certificate
  | .bytes b => (Certificate.decode b).mapError .unreadable
  | _ => .error (.mismatch .undecodable)

/-- The certificate in either form that a value holds. -/
def loadValue : Value → Except PeerName.Fault Certificate
  | .bytes b => (Certificate.load b).mapError .unreadable
  | .text _ => .error (.mismatch .textNeeded)
  | .list _ | .record _ => .error (.mismatch .undecodable)
  | v => .error (.mismatch (.notContainer v.kind))

/-! ### Certificate files -/

/-- Why a file gives no certificate. -/
inductive FileFault where
  /-- There is nothing at this path. -/
  | missing (path : String)
  /-- The file holds nothing but blanks. -/
  | empty (path : String)
  /-- The file cannot be read. -/
  | storage (cause : Storage.Fault)
  /-- The content is no certificate. -/
  | unreadable (cause : Fault)

/-- The report of a fault. -/
def FileFault.message : FileFault → String
  | missing path => "Certificate file not found: " ++ path
  | empty path => "Certificate file is empty: " ++ path
  | storage cause => cause.message
  | unreadable cause => cause.message

/-- Whether a byte is an ASCII blank. -/
def isBlankByte (b : UInt8) : Bool := b = 0x20 || (0x09 ≤ b && b ≤ 0x0d)

/-- The certificate in the file under a path. -/
def Certificate.ofFile (folder : Storage.Folder) (path : String) : Except FileFault Certificate :=
  if !folder.holds path then .error (.missing path)
  else match folder.read path with
    | .error cause => .error (.storage cause)
    | .ok bytes =>
      if bytes.all isBlankByte then .error (.empty path)
      else (Certificate.load bytes).mapError .unreadable

end PeerName.X509
