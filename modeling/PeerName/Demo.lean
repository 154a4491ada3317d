import PeerName.Certificate.Basic
import PeerName.Verification.Report

/-!
# A demonstration

The decisions about a few certificates, which show the order of precedence among names and the
rules for stars.

* `Demo.text` — the demonstration.
-/

namespace PeerName.Demo

/-- A decision, with a mark for its verdict. -/
def line (d : Decision) : String :=
  match d.verdict with
  | .authorized name source =>
    "  ✓ " ++ d.host.plain ++ " (matched " ++ Unicode.upper source.tag ++ " " ++ name.plain ++ ")\n"
  | .refused reason => "  ✗ " ++ d.host.plain ++ " (" ++ reason.message d.host ++ ")\n"

/-- The decisions about some hosts under a heading. -/
def group [Limits] (heading : String) (policy : Policy) (cert : Option Certificate)
    (hosts : List String) : Except Mismatch String := do
  let lines ← hosts.mapM fun host => (verify policy cert (.text host)).outcome.map line
  return heading ++ "\n" ++ String.join lines

/-- A certificate with alternative names. -/
def listed : InMemory where
  dnsNames := [.text "foo.test", .text "*.bar.test", .text "test.webrtc.org"]
  commonName := .text "*.webrtc.org"

/-- A certificate with a common name alone. -/
def legacy : InMemory where
  commonName := .text "*.webrtc.org"

/-- A certificate with a star inside a label. -/
def inner : InMemory where
  dnsNames := [.text "f*o.example.com"]

/-- The groups of the demonstration. -/
def groups [Limits] : List (Except Mismatch String) :=
  [group "1. Certificate with subjectAltName (CN is ignored)..." {} listed.certificate
      ["foo.test", "a.bar.test", "www.webrtc.org", "a.b.bar.test", "bar.test"],
    group "\n2. Legacy certificate with only a commonName..." {} legacy.certificate
      ["alice.webrtc.org", "a.b.webrtc.org", "webrtc.org"],
    group "\n3. Same legacy certificate with the commonName fallback disabled..."
      { commonNameFallback := false } legacy.certificate ["alice.webrtc.org"],
    group "\n4. Partial-label wildcards are never expanded..." {} inner.certificate
      ["foo.example.com"],
    group "\n5. No peer certificate..." {} none ["webrtc.org"]]

/-- The demonstration. -/
def text [Limits] : Except Mismatch String := do
  let shown ← groups.mapM id
  return "=== Peer Certificate Hostname Verification Demo ===\n\n" ++ String.join shown

end PeerName.Demo
