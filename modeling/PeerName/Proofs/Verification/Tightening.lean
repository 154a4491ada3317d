import PeerName.Certificate.Basic
import PeerName.Proofs.Host.Star
import PeerName.Proofs.Verification.Law

/-!
# Tighter policies

A policy is tightened by turning switches off.  A tighter policy authorizes nobody whom the looser
one does not authorize from the same part of the certificate, though perhaps by another name: with
the stars off, the first alternative name that covers a host can be a later one.  Conversely, when
an authorization is lost, one of the switches that were turned off accounts for it: the host was
authorized by the common name, or by a name with a star in front.

* `Policy.Tightens` — every switch that is on in the one policy is on in the other;
* `exists_authorized_of_tightens` — a tighter policy only removes authorizations;
* `lost_authorization` — what accounts for one that is removed;
* `tightened_reports` — **both, for configurations and their reports**.
-/

namespace PeerName

/-- Every switch that is on in the first policy is on in the second. -/
structure Policy.Tightens (strict loose : Policy) : Prop where
  commonNameFallback : strict.commonNameFallback = true → loose.commonNameFallback = true
  wildcards : strict.wildcards = true → loose.wildcards = true

/-! ### A single certificate -/

variable {strict loose : Policy} {cert : Certificate} {host : Value}

theorem ByAltName.of_tightens (htighter : strict.Tightens loose)
    (h : ByAltName strict.wildcards cert host) : ByAltName loose.wildcards cert host := by
  obtain ⟨hclaim, names, items, hnames, hitems, name, hmem, hcovers⟩ := h
  have hloose := Host.coversValue_of_tighter htighter.wildcards hcovers
  exact ⟨hclaim, names, items, hnames, hitems, name, hmem, hloose⟩

theorem CoveringCommonName.of_tightens (htighter : strict.Tightens loose) {name : String}
    (h : CoveringCommonName strict.commonNameFallback strict.wildcards cert host name) :
    CoveringCommonName loose.commonNameFallback loose.wildcards cert host name := by
  obtain ⟨hclaim, hadmitted, hname, hcovers⟩ := h
  have hloose := Host.coversValue_of_tighter htighter.wildcards hcovers
  exact ⟨hclaim, htighter.commonNameFallback hadmitted, hname, hloose⟩

theorem tightens_ofFields {strict loose : Option (List (String × Value))}
    (hfallback : Policy.IsOn strict "legacy_common_name_fallback" = true →
      Policy.IsOn loose "legacy_common_name_fallback" = true)
    (hwildcards : Policy.IsOn strict "allow_wildcards" = true →
      Policy.IsOn loose "allow_wildcards" = true) :
    (Policy.ofFields (strict.getD [])).Tightens (Policy.ofFields (loose.getD [])) := by
  constructor
  · rw [ofFields_commonNameFallback, ofFields_commonNameFallback]
    exact hfallback
  · rw [ofFields_wildcards, ofFields_wildcards]
    exact hwildcards

section Limits

variable [Limits]

/-- **A tighter policy only removes authorizations.**  Whom it authorizes, the looser policy
authorizes from the same part of the certificate. -/
theorem exists_authorized_of_tightens (htighter : strict.Tightens loose) {name : Value}
    {source : NameSource}
    (h : (verify strict (some cert) host).outcome =
      .ok { host, verdict := .authorized name source }) :
    ∃ other, (verify loose (some cert) host).outcome =
      .ok { host, verdict := .authorized other source } := by
  cases source with
  | altName =>
    have hstrict : ByAltName strict.wildcards cert host :=
      (byAltName_iff _ _ _).mpr ⟨name, (outcome_eq_altName_iff name).mp h⟩
    obtain ⟨other, hother⟩ := (byAltName_iff _ _ _).mp (hstrict.of_tightens htighter)
    exact ⟨other, (outcome_eq_altName_iff other).mpr hother⟩
  | commonName =>
    obtain ⟨s, rfl, hs⟩ := (outcome_eq_commonName_iff name).mp h
    exact ⟨.text s, (outcome_eq_commonName_iff _).mpr ⟨s, rfl, hs.of_tightens htighter⟩⟩

/-- **What accounts for a lost authorization.**  Either it rested on the common name, which the
tighter policy does not admit, or it rested on a star, which the tighter policy does not expand. -/
theorem lost_authorization (htighter : strict.Tightens loose) {name : Value} {source : NameSource}
    (h : (verify loose (some cert) host).outcome =
      .ok { host, verdict := .authorized name source })
    (hlost : (verify strict (some cert) host).authorized ≠ .ok true) :
    (source = .commonName ∧ strict.commonNameFallback = false) ∨
      (strict.wildcards = false ∧ Host.isWildcardValue name = true) := by
  obtain ⟨halt, hcommon⟩ := not_or.mp (mt authorized_iff.mpr hlost)
  cases source with
  | altName =>
    obtain ⟨hclaim, names, before, after, hnames, hitems, hcovers, -⟩ :=
      (outcome_eq_altName_iff name).mp h
    refine Or.inr (Host.isWildcardValue_of_lost htighter.wildcards hcovers ?_)
    -- if the tighter policy let this very name cover the host, it would authorize the host
    rw [← Bool.not_eq_true]
    intro hstrict
    exact halt ⟨hclaim, names, _, hnames, hitems, name, by simp, hstrict⟩
  | commonName =>
    obtain ⟨s, rfl, hclaim, -, hname, hcovers⟩ := (outcome_eq_commonName_iff name).mp h
    cases hadmitted : strict.commonNameFallback with
    | false => exact Or.inl ⟨rfl, rfl⟩
    | true =>
      refine Or.inr (Host.isWildcardValue_of_lost htighter.wildcards hcovers ?_)
      rw [← Bool.not_eq_true]
      intro hstrict
      exact hcommon ⟨s, hclaim, hadmitted, hname, hstrict⟩

/-! ### Configurations -/

/-- A report of an authorization is that of a decision about a certificate. -/
theorem exists_of_report_authorized {config : Option (List (String × Value))}
    {cert : Option Certificate} {report : Report}
    (hreport : reportUnder config cert host = .ok report)
    (hauthorized : report.isAuthorized = .bool true) :
    ∃ c name source, cert = some c ∧
      (verify (.ofFields (config.getD [])) (some c) host).outcome =
        .ok { host, verdict := .authorized name source } ∧
      report = .authorized host name source.tag := by
  have h := (reportUnder_isAuthorized_iff config cert host).mp ⟨report, hreport, hauthorized⟩
  cases cert with
  | none => exact absurd h verify_none_not_authorized
  | some c =>
    obtain ⟨name, source, hd⟩ := authorized_iff_exists.mp h
    have hother := (reportUnder_eq_authorized_iff config (some c) host name source).mpr hd
    exact ⟨c, name, source, rfl, hd, Except.ok.inj (hreport.symm.trans hother)⟩

/-- **The reports under a tighter configuration.**  Let every switch that reads as on in the strict
configuration read as on in the loose one.  A host that the strict configuration authorizes is
authorized by the loose one, from the same part of the certificate.  If only the loose one
authorizes it, then either the common name authorized it and the strict one does not admit the
common name, or the strict one does not expand stars and the name that authorized it has one. -/
theorem tightened_reports (loose strict : Option (List (String × Value)))
    (hfallback : Policy.IsOn strict "legacy_common_name_fallback" = true →
      Policy.IsOn loose "legacy_common_name_fallback" = true)
    (hwildcards : Policy.IsOn strict "allow_wildcards" = true →
      Policy.IsOn loose "allow_wildcards" = true)
    (cert : Option Certificate) (host : Value) :
    (∀ after, reportUnder strict cert host = .ok after → after.isAuthorized = .bool true →
      ∃ before, reportUnder loose cert host = .ok before ∧
        before.isAuthorized = .bool true ∧ before.source = after.source) ∧
    (∀ before, reportUnder loose cert host = .ok before → before.isAuthorized = .bool true →
      (∀ after, reportUnder strict cert host = .ok after → after.isAuthorized ≠ .bool true) →
      (before.source = .text "cn" ∧ Policy.IsOn strict "legacy_common_name_fallback" = false) ∨
      (Policy.IsOn strict "allow_wildcards" = false ∧
        Host.isWildcardValue before.matchedName = true)) := by
  have htighter := tightens_ofFields hfallback hwildcards
  constructor
  · intro after hafter hauthorized
    obtain ⟨c, name, source, rfl, hd, rfl⟩ := exists_of_report_authorized hafter hauthorized
    obtain ⟨other, hother⟩ := exists_authorized_of_tightens htighter hd
    exact ⟨.authorized host other source.tag,
      (reportUnder_eq_authorized_iff _ _ _ _ _).mpr hother, rfl, rfl⟩
  · intro before hbefore hauthorized hlost
    obtain ⟨c, name, source, rfl, hd, rfl⟩ := exists_of_report_authorized hbefore hauthorized
    have hstrict : (verify (.ofFields (strict.getD [])) (some c) host).authorized ≠ .ok true := by
      intro h
      obtain ⟨after, hafter, hauthorized⟩ := (reportUnder_isAuthorized_iff _ _ _).mpr h
      exact hlost after hafter hauthorized
    rw [← ofFields_commonNameFallback, ← ofFields_wildcards]
    rcases lost_authorization htighter hd hstrict with ⟨rfl, hoff⟩ | ⟨hoff, hstar⟩
    · exact Or.inl ⟨rfl, hoff⟩
    · exact Or.inr ⟨hoff, hstar⟩

end Limits

/-- With both switches off, a later name authorizes the host from the same list; a list with a
star alone and a common name alone lose their authorizations. -/
theorem tightened_reports_foo_bar_test :
    let _ : Limits := .usual
    let strict : Option (List (String × Value)) :=
      some [("allow_wildcards", .int 0), ("legacy_common_name_fallback", .null)]
    let host : Value := .text "foo.bar.test"
    let before (names : InMemory) := reportUnder none (some names.certificate) host
    let after (names : InMemory) := reportUnder strict (some names.certificate) host
    let listed : InMemory := { dnsNames := [.text "*.bar.test", .text "foo.bar.test"] }
    let starred : InMemory := { dnsNames := [.text "*.bar.test"] }
    let named : InMemory := { commonName := .text "foo.bar.test" }
    (after listed = .ok (.authorized host (.text "foo.bar.test") "san") ∧
      ∃ report, before listed = .ok report ∧ report.isAuthorized = .bool true ∧
        report.source = .text "san") ∧
    (before starred = .ok (.authorized host (.text "*.bar.test") "san") ∧
      after starred = .ok (.refused host "Host 'foo.bar.test' is not listed in subjectAltName") ∧
      Policy.IsOn strict "allow_wildcards" = false ∧
      Host.isWildcardValue (.text "*.bar.test") = true) ∧
    (before named = .ok (.authorized host (.text "foo.bar.test") "cn") ∧
      after named = .ok (.refused host "Certificate has no subjectAltName DNS entries") ∧
      Policy.IsOn strict "legacy_common_name_fallback" = false) := by
  intro _ strict host before after listed starred named
  have hlaw (names : InMemory) :=
    tightened_reports none strict (fun _ => rfl) (fun _ => rfl) (some names.certificate) host
  have hlisted : after listed = .ok (.authorized host (.text "foo.bar.test") "san") := rfl
  have hstarred : before starred = .ok (.authorized host (.text "*.bar.test") "san") := rfl
  have hnamed : before named = .ok (.authorized host (.text "foo.bar.test") "cn") := rfl
  have hlostStarred : after starred =
      .ok (.refused host "Host 'foo.bar.test' is not listed in subjectAltName") := rfl
  have hlostNamed : after named =
      .ok (.refused host "Certificate has no subjectAltName DNS entries") := rfl
  have hrefused {report : Report} {message : String}
      (h : Except.ok (Report.refused host message) = (.ok report : Except Mismatch Report)) :
      report.isAuthorized ≠ .bool true := by
    obtain rfl := Except.ok.inj h
    exact fun h => Bool.false_ne_true (Value.bool.inj h)
  refine ⟨⟨hlisted, (hlaw listed).1 _ hlisted rfl⟩, ⟨hstarred, hlostStarred, ?_⟩,
    ⟨hnamed, hlostNamed, ?_⟩⟩
  · rcases (hlaw starred).2 _ hstarred rfl
      (fun report h => hrefused (hlostStarred.symm.trans h)) with ⟨h, -⟩ | h
    · exact absurd (Value.text.inj h) (by decide)
    · exact h
  · rcases (hlaw named).2 _ hnamed rfl
      (fun report h => hrefused (hlostNamed.symm.trans h)) with ⟨-, h⟩ | ⟨-, h⟩
    · exact h
    · exact absurd h (by decide +kernel)

end PeerName
