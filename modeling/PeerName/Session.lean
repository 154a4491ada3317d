import PeerName.Verification.Decision
import PeerName.X509.Load

/-!
# Sessions

After a handshake a session can be asked for the certificate of its peer, which it gives in
encoded form, or not at all if the peer has shown none.  Asking can fail.  Whatever goes wrong, the
peer is not authorized; if a report of it cannot be written out, there is no answer at all.

* `Session` — what a session answers;
* `Exchange` — a result together with the requests that were made of the session;
* `Session.peerCertificate` — the certificate of the peer;
* `verifyPeer` — whether the peer is authorized to act as a host.
-/

namespace PeerName

open Journal (Record)

/-- An established session: its answer when it is asked for the certificate of its peer.  Nothing is
promised about the kind of the answer. -/
structure Session where
  answer : Except Fault Value

/-- A request to a session. -/
inductive Request where
  /-- The certificate of the peer, in encoded form or as a list of its fields. -/
  | peerCertificate (encoded : Bool)
  deriving DecidableEq

/-- A result, and the requests made for it. -/
structure Exchange (α : Type) where
  requests : List Request
  outcome : Except Fault α

/-- The certificate that an answer holds; null and anything empty holds none. -/
def certificateOfAnswer (answer : Value) : Except Fault (Option X509.Certificate) :=
  if answer.isTruthy then (X509.derValue answer).map some else .ok none

/-- The certificate of the peer, if there are a session and a certificate. -/
def Session.peerCertificate (session : Option Session) : Exchange (Option X509.Certificate) :=
  match session with
  | none => { requests := [], outcome := .ok none }
  | some session =>
    { requests := [.peerCertificate true], outcome := session.answer.bind certificateOfAnswer }

/-- Whether the peer is authorized to act as a host, unless a report could not be written out, and
what was logged. -/
structure PeerVerdict where
  authorized : Except Mismatch Bool
  log : List Record
  requests : List Request

/-- Decides whether the peer of a session is authorized to act as a host. -/
def verifyPeer [Limits] (policy : Policy) (session : Option Session) (host : Value) :
    PeerVerdict :=
  let exchange := Session.peerCertificate session
  match exchange.outcome with
  | .error cause =>
    match cause.hindrance? .session with
    | some hindrance => { authorized := .error hindrance, log := [], requests := exchange.requests }
    | none =>
      { authorized := .ok false, requests := exchange.requests,
        log := [verifierRecord .error ("Could not read peer certificate: " ++ cause.message)] }
  | .ok cert =>
    let heard := verify policy (cert.map (·.certificate)) host
    { authorized := heard.authorized, log := heard.log, requests := exchange.requests }

end PeerName
