import PeerName.Proofs.Value.Obstacle
import PeerName.Proofs.Verification.Course
import PeerName.Verification.Report

/-!
# The law of decisions

What a decision is depends on the certificate by one law, whatever the places of the certificate
hold and whichever of them are faulty.  A host is authorized by a certificate that claims to have
alternative names if and only if these can be gone through and one of them covers the host; by one
that claims to have none, if and only if the policy admits the common name and this is a text that
covers the host.  Everything else is a refusal with a reason, as long as the reason can be written
out.  Where it cannot, which takes a host or a key with too many digits or too many layers, there
is no decision at all, and nobody is authorized.

* `Policy.IsOn` — how a switch of a configuration is read;
* `ByAltName`, `ByCommonName` — the two ways to be authorized;
* `FirstAltName`, `CoveringCommonName` — the name that a report gives;
* `BreaksDown` — the report cannot be written out;
* `authorized_iff`, `outcome_eq_error_iff` — the law for a single certificate;
* `exists_decision` — when there is a decision in any case;
* `report_law` — **the law**, for every configuration, certificate and host;
* `report_of_long_host` — a host for which there is no decision.
-/

namespace PeerName

open Journal (Record)

/-- What a switch of a configuration reads as.  A switch that is not mentioned is on, and so is
every switch where there is no configuration. -/
def Policy.IsOn (config : Option (List (String × Value))) (name : String) : Bool :=
  match config with
  | none => true
  | some fields =>
    match fields.lookup name with
    | none => true
    | some v => v.isTruthy

/-- The certificate claims to have alternative names, and one of them covers the host. -/
def ByAltName (wildcards : Bool) (cert : Certificate) (host : Value) : Prop :=
  cert.Claims true ∧ ∃ names items, cert.altNames.outcome = .ok names ∧
    names.elements? = some items ∧ ∃ name ∈ items, Host.coversValue wildcards name host = true

/-- The name is the first of the alternative names that covers the host. -/
def FirstAltName (wildcards : Bool) (cert : Certificate) (host name : Value) : Prop :=
  cert.Claims true ∧ ∃ names before after, cert.altNames.outcome = .ok names ∧
    names.elements? = some (before ++ name :: after) ∧
    Host.coversValue wildcards name host = true ∧
    ∀ other ∈ before, Host.coversValue wildcards other host = false

/-- The certificate claims to have no alternative names, the common name is admitted in their
place, and it is this text, which covers the host. -/
def CoveringCommonName (fallback wildcards : Bool) (cert : Certificate) (host : Value)
    (name : String) : Prop :=
  cert.Claims false ∧ fallback = true ∧ cert.commonName.outcome = .ok (.text name) ∧
    Host.coversValue wildcards (.text name) host = true

/-- The common name is admitted and covers the host. -/
def ByCommonName (fallback wildcards : Bool) (cert : Certificate) (host : Value) : Prop :=
  ∃ name, CoveringCommonName fallback wildcards cert host name

/-- The report that a host is authorized by a name. -/
def Report.authorized (host name : Value) (source : String) : Report where
  isAuthorized := .bool true
  hostname := host
  matchedName := name
  source := .text source

/-- The report that a host is refused. -/
def Report.refused (host : Value) (message : String) : Report where
  isAuthorized := .bool false
  hostname := host
  errorMessage := .text message

/-- The report about a host under a configuration, if there is a decision. -/
def reportUnder [Limits] (config : Option (List (String × Value))) (cert : Option Certificate)
    (host : Value) : Except Mismatch Report :=
  (verify (.ofFields (config.getD [])) cert host).report

/-- Every fault of the certificate can be put into words. -/
def Certificate.FaultsWritable [Limits] (cert : Certificate) : Prop :=
  ∀ place cause, (cert.reading place).outcome = .error cause → cause.hindrance? .fault = none

/-- The report of a decision breaks down: a host for which there is no certificate, or a fault that
ends the deliberation, cannot be written out. -/
def BreaksDown [Limits] (fallback : Bool) (cert : Option Certificate) (host : Value)
    (hindrance : Mismatch) : Prop :=
  match cert with
  | none => Desk.verifier.hindrance? [host] = some hindrance
  | some cert => ∃ places cause, EndsInFault fallback cert host places cause ∧
    cause.hindranceAbout? host = some hindrance

/-! ### The first covering name -/

theorem Host.firstCovering_eq_some_iff (wildcards : Bool) (items : List Value) (host name : Value) :
    Host.firstCovering wildcards items host = some name ↔
      ∃ before after, items = before ++ name :: after ∧
        Host.coversValue wildcards name host = true ∧
        ∀ other ∈ before, Host.coversValue wildcards other host = false := by
  rw [Host.firstCovering, List.find?_eq_some_iff_append]
  constructor
  · rintro ⟨hname, before, after, hitems, hbefore⟩
    exact ⟨before, after, hitems, hname, fun other hother => by simpa using hbefore other hother⟩
  · rintro ⟨before, after, hitems, hname, hbefore⟩
    exact ⟨hname, before, after, hitems, fun other hother => by simpa using hbefore other hother⟩

theorem Host.firstCovering_eq_none_iff (wildcards : Bool) (items : List Value) (host : Value) :
    Host.firstCovering wildcards items host = none ↔
      ¬∃ name ∈ items, Host.coversValue wildcards name host = true := by
  rw [Host.firstCovering, List.find?_eq_none]
  constructor
  · rintro h ⟨name, hmem, hname⟩
    exact h name hmem hname
  · intro h name hmem hname
    exact h ⟨name, hmem, hname⟩

/-- Where some alternative name covers the host, there is a first one. -/
theorem byAltName_iff (wildcards : Bool) (cert : Certificate) (host : Value) :
    ByAltName wildcards cert host ↔ ∃ name, FirstAltName wildcards cert host name := by
  constructor
  · rintro ⟨hclaim, names, items, hnames, hitems, hcovers⟩
    cases hfirst : Host.firstCovering wildcards items host with
    | none => exact absurd hcovers ((Host.firstCovering_eq_none_iff _ _ _).mp hfirst)
    | some name =>
      obtain ⟨before, after, rfl, hname⟩ := (Host.firstCovering_eq_some_iff _ _ _ _).mp hfirst
      exact ⟨name, hclaim, names, before, after, hnames, hitems, hname⟩
  · rintro ⟨name, hclaim, names, before, after, hnames, hitems, hname, -⟩
    exact ⟨hclaim, names, _, hnames, hitems, name, by simp, hname⟩

/-! ### Reports -/

theorem NameSource.tag_injective : Function.Injective NameSource.tag := by
  intro a b h
  cases a <;> cases b <;> first | rfl | exact absurd h (by decide)

theorem Decision.report_eq_authorized_iff (d : Decision) (name : Value) (source : NameSource) :
    d.report = .authorized d.host name source.tag ↔ d.verdict = .authorized name source := by
  obtain ⟨host, verdict⟩ := d
  cases verdict with
  | authorized other otherSource =>
    constructor
    · intro h
      obtain ⟨-, -, hname, hsource, -⟩ := Report.mk.inj h
      show Verdict.authorized other otherSource = _
      rw [show other = name from hname, NameSource.tag_injective (Value.text.inj hsource)]
    · intro h
      obtain ⟨rfl, rfl⟩ := Verdict.authorized.inj h
      rfl
  | refused reason =>
    exact iff_of_false (fun h => Bool.false_ne_true (Value.bool.inj (Report.mk.inj h).1))
      fun h => nomatch h

theorem Deliberation.report_eq_ok_iff (d : Deliberation) (report : Report) :
    d.report = .ok report ↔ ∃ decision, d.outcome = .ok decision ∧ decision.report = report := by
  rw [Deliberation.report]
  cases d.outcome with
  | error cause => exact iff_of_false (fun h => nomatch h) fun ⟨_, h, _⟩ => nomatch h
  | ok decision =>
    rw [Except.map, Except.ok.injEq]
    simp only [Except.ok.injEq, exists_eq_left']

theorem ofFields_wildcards (config : Option (List (String × Value))) :
    (Policy.ofFields (config.getD [])).wildcards = Policy.IsOn config "allow_wildcards" := by
  cases config with
  | none => rfl
  | some fields =>
    show ((fields.lookup "allow_wildcards").getD (.bool true)).isTruthy = _
    rw [Policy.IsOn]
    cases fields.lookup "allow_wildcards" <;> rfl

theorem ofFields_commonNameFallback (config : Option (List (String × Value))) :
    (Policy.ofFields (config.getD [])).commonNameFallback =
      Policy.IsOn config "legacy_common_name_fallback" := by
  cases config with
  | none => rfl
  | some fields =>
    show ((fields.lookup "legacy_common_name_fallback").getD (.bool true)).isTruthy = _
    rw [Policy.IsOn]
    cases fields.lookup "legacy_common_name_fallback" <;> rfl

/-! ### A single certificate -/

theorem Deliberation.authorized_eq_ok_iff (d : Deliberation) (answer : Bool) :
    d.authorized = .ok answer ↔
      ∃ decision, d.outcome = .ok decision ∧ decision.isAuthorized = answer := by
  rw [Deliberation.authorized]
  cases d.outcome with
  | error cause => exact iff_of_false (fun h => nomatch h) fun ⟨_, h, _⟩ => nomatch h
  | ok decision =>
    rw [Except.map, Except.ok.injEq]
    simp only [Except.ok.injEq, exists_eq_left']
    exact Iff.rfl

theorem Decision.isAuthorized_iff (d : Decision) :
    d.isAuthorized = true ↔ ∃ name source, d.verdict = .authorized name source := by
  rw [Decision.isAuthorized]
  cases d.verdict with
  | authorized name source => exact iff_of_true rfl ⟨name, source, rfl⟩
  | refused reason => exact iff_of_false Bool.false_ne_true fun h => nomatch h

section Limits

variable [Limits] {policy : Policy} {cert : Certificate} {host : Value}

/-- The end by a fault that can be written out. -/
theorem Deliberation.ofFault_of_none {cause : Fault} (h : cause.hindranceAbout? host = none)
    (log : List Record) (calls : List Accessor) :
    Deliberation.ofFault host cause log calls =
      { outcome := .ok { host, verdict := .refused (.unreadable cause) }
        log := log ++ [verifierRecord .error
          ("Hostname verification failed for " ++ host.quoted ++ ": " ++ cause.message)]
        calls } := by
  rw [Deliberation.ofFault, h]

/-- The end by a fault that cannot be written out. -/
theorem Deliberation.ofFault_of_some {cause : Fault} {hindrance : Mismatch}
    (h : cause.hindranceAbout? host = some hindrance) (log : List Record)
    (calls : List Accessor) :
    Deliberation.ofFault host cause log calls = { outcome := .error hindrance, log, calls } := by
  rw [Deliberation.ofFault, h]

/-- A decision that ends in a fault is a refusal for this fault. -/
theorem Deliberation.ofFault_outcome_eq_ok_iff {cause : Fault} {log : List Record}
    {calls : List Accessor} (decision : Decision) :
    (Deliberation.ofFault host cause log calls).outcome = .ok decision ↔
      cause.hindranceAbout? host = none ∧
        decision = { host, verdict := .refused (.unreadable cause) } := by
  cases habout : cause.hindranceAbout? host with
  | none => rw [ofFault_of_none habout, Except.ok.injEq, eq_comm, eq_self, true_and]
  | some hindrance =>
    rw [ofFault_of_some habout]
    exact iff_of_false (fun h => nomatch h) fun h => nomatch h.1

theorem Deliberation.ofFault_outcome_eq_error_iff {cause : Fault} {log : List Record}
    {calls : List Accessor} (hindrance : Mismatch) :
    (Deliberation.ofFault host cause log calls).outcome = .error hindrance ↔
      cause.hindranceAbout? host = some hindrance := by
  cases habout : cause.hindranceAbout? host with
  | none =>
    rw [ofFault_of_none habout]
    exact iff_of_false (fun h => nomatch h) fun h => nomatch h
  | some other => rw [ofFault_of_some habout, Except.error.injEq, Option.some.injEq]

/-- A decision about a host names this host. -/
theorem Course.host_eq {d : Deliberation} (h : Course policy cert host d) {decision : Decision}
    (hd : d.outcome = .ok decision) : decision.host = host := by
  cases h with
  | fault h =>
    obtain ⟨-, rfl⟩ := (Deliberation.ofFault_outcome_eq_ok_iff _).mp hd
    rfl
  | _ =>
    cases hd
    rfl

/-- An authorization is that of one of two courses. -/
theorem Course.authorized_cases {d : Deliberation} (h : Course policy cert host d) {name : Value}
    {source : NameSource} (hd : d.outcome = .ok { host, verdict := .authorized name source }) :
    (source = .altName ∧ FirstAltName policy.wildcards cert host name) ∨
      (source = .commonName ∧ ∃ s : String, name = .text s ∧
        CoveringCommonName policy.commonNameFallback policy.wildcards cert host s) := by
  cases h with
  | fault h => exact nomatch (Deliberation.ofFault_outcome_eq_ok_iff _).mp hd
  | listed hclaim hnames hitems hfirst =>
    cases hd
    obtain ⟨before, after, rfl, hname⟩ := (Host.firstCovering_eq_some_iff _ _ _ _).mp hfirst
    exact Or.inl ⟨rfl, hclaim, _, before, after, hnames, hitems, hname⟩
  | commonName hclaim hpolicy hname hcovers =>
    cases hd
    obtain ⟨s, -, rfl, -⟩ := Host.exists_texts_of_coversValue hcovers
    exact Or.inr ⟨rfl, s, rfl, hclaim, hpolicy, hname, hcovers⟩
  | _ => cases hd

/-- An alternative name is reported exactly when it is the first one that covers the host. -/
theorem outcome_eq_altName_iff (name : Value) :
    (verify policy (some cert) host).outcome =
        .ok { host, verdict := .authorized name .altName } ↔
      FirstAltName policy.wildcards cert host name := by
  constructor
  · intro hd
    rcases (course_verify policy cert host).authorized_cases hd with ⟨-, h⟩ | ⟨h, -⟩
    · exact h
    · cases h
  · rintro ⟨hclaim, names, before, after, hnames, hitems, hname⟩
    have hfirst := (Host.firstCovering_eq_some_iff _ _ _ _).mpr ⟨before, after, rfl, hname⟩
    rw [(Course.listed hclaim hnames hitems hfirst).verify_eq]

/-- The common name is reported exactly when it is admitted and covers the host. -/
theorem outcome_eq_commonName_iff (name : Value) :
    (verify policy (some cert) host).outcome =
        .ok { host, verdict := .authorized name .commonName } ↔
      ∃ s : String, name = .text s ∧
        CoveringCommonName policy.commonNameFallback policy.wildcards cert host s := by
  constructor
  · intro hd
    rcases (course_verify policy cert host).authorized_cases hd with ⟨h, -⟩ | ⟨-, h⟩
    · cases h
    · exact h
  · rintro ⟨s, rfl, hclaim, hpolicy, hname, hcovers⟩
    rw [(Course.commonName hclaim hpolicy hname hcovers).verify_eq]

theorem verify_host {cert : Option Certificate} {decision : Decision}
    (h : (verify policy cert host).outcome = .ok decision) : decision.host = host := by
  cases cert with
  | none =>
    rw [verify] at h
    cases hwrite : Desk.verifier.hindrance? [host] with
    | none =>
      rw [hwrite] at h
      cases h
      rfl
    | some hindrance =>
      rw [hwrite] at h
      cases h
  | some cert => exact (course_verify policy cert host).host_eq h

/-- Nobody is authorized without a certificate. -/
theorem verify_none_not_authorized : (verify policy none host).authorized ≠ .ok true := by
  rw [verify]
  cases Desk.verifier.hindrance? [host] with
  | none => exact fun h => Bool.false_ne_true (Except.ok.inj h)
  | some hindrance =>
    intro h
    cases h

/-- Where a host is authorized, there is a decision with the name that authorizes it. -/
theorem authorized_iff_exists {cert : Option Certificate} :
    (verify policy cert host).authorized = .ok true ↔
      ∃ name source,
        (verify policy cert host).outcome = .ok { host, verdict := .authorized name source } := by
  rw [Deliberation.authorized_eq_ok_iff]
  constructor
  · rintro ⟨decision, hd, hauthorized⟩
    obtain ⟨name, source, hverdict⟩ := decision.isAuthorized_iff.mp hauthorized
    obtain rfl := verify_host hd
    exact ⟨name, source, by rw [hd, ← hverdict]⟩
  · rintro ⟨name, source, hd⟩
    exact ⟨_, hd, rfl⟩

/-- **A certificate authorizes a host by its alternative names or by its common name.** -/
theorem authorized_iff :
    (verify policy (some cert) host).authorized = .ok true ↔
      ByAltName policy.wildcards cert host ∨
        ByCommonName policy.commonNameFallback policy.wildcards cert host := by
  rw [authorized_iff_exists, byAltName_iff]
  constructor
  · rintro ⟨name, source, hd⟩
    cases source with
    | altName => exact Or.inl ⟨name, (outcome_eq_altName_iff name).mp hd⟩
    | commonName =>
      obtain ⟨s, -, hs⟩ := (outcome_eq_commonName_iff name).mp hd
      exact Or.inr ⟨s, hs⟩
  · rintro (⟨name, hname⟩ | ⟨s, hs⟩)
    · exact ⟨name, .altName, (outcome_eq_altName_iff name).mpr hname⟩
    · exact ⟨.text s, .commonName, (outcome_eq_commonName_iff _).mpr ⟨s, rfl, hs⟩⟩

/-- **There is no decision** exactly when the report of it breaks down. -/
theorem outcome_eq_error_iff (cert : Option Certificate) (hindrance : Mismatch) :
    (verify policy cert host).outcome = .error hindrance ↔
      BreaksDown policy.commonNameFallback cert host hindrance := by
  cases cert with
  | none =>
    rw [verify, BreaksDown]
    cases Desk.verifier.hindrance? [host] with
    | none =>
      refine iff_of_false ?_ ?_
      · intro h
        cases h
      · intro h
        cases h
    | some other =>
      show Except.error other = .error hindrance ↔ _
      rw [Except.error.injEq, Option.some.injEq]
  | some cert =>
    constructor
    · intro herror
      have hcourse := course_verify policy cert host
      generalize verify policy (some cert) host = d at herror hcourse
      cases hcourse with
      | fault h => exact ⟨_, _, h, (Deliberation.ofFault_outcome_eq_error_iff _).mp herror⟩
      | _ => cases herror
    · rintro ⟨places, cause, h, habout⟩
      rw [h.verify_eq]
      exact (Deliberation.ofFault_outcome_eq_error_iff _).mpr habout

/-! ### The law -/

/-- Where the certificate can put its faults into words, so can the deliberation. -/
theorem EndsInFault.hindrance?_eq_none {fallback : Bool} {places : List Accessor} {cause : Fault}
    (h : EndsInFault fallback cert host places cause) (hcert : cert.FaultsWritable) :
    cause.hindrance? .fault = none := by
  cases h with
  | claim hclaim => exact hcert .hasAltNames _ hclaim
  | altNames _ hnames => exact hcert .altNames _ hnames
  | commonName _ _ hname => exact hcert .commonName _ hname
  | notIterable => rfl
  | host => rfl
  | otherName => rfl

/-- Then it is the host that cannot be written out, if the report breaks down. -/
theorem BreaksDown.hindrance?_eq {fallback : Bool} {cert : Option Certificate}
    {hindrance : Mismatch} (h : BreaksDown fallback cert host hindrance)
    (hcert : ∀ c, cert = some c → c.FaultsWritable) :
    Desk.verifier.hindrance? [host] = some hindrance := by
  cases cert with
  | none => exact h
  | some cert =>
    obtain ⟨places, cause, hfault, habout⟩ := h
    rw [Fault.hindranceAbout?, hfault.hindrance?_eq_none (hcert cert rfl)] at habout
    rwa [Option.or_none] at habout

/-- A host that can be written out is decided about. -/
theorem exists_decision {cert : Option Certificate} (hhost : Desk.verifier.hindrance? [host] = none)
    (hcert : ∀ c, cert = some c → c.FaultsWritable) :
    ∃ decision, (verify policy cert host).outcome = .ok decision := by
  cases houtcome : (verify policy cert host).outcome with
  | ok decision => exact ⟨decision, rfl⟩
  | error hindrance =>
    have hbroken := (outcome_eq_error_iff cert hindrance).mp houtcome
    rw [hbroken.hindrance?_eq hcert] at hhost
    cases hhost

section Configuration

variable (config : Option (List (String × Value))) (cert : Option Certificate) (host : Value)

/-- The report of an authorization is that of a decision with this name. -/
theorem reportUnder_eq_authorized_iff (name : Value) (source : NameSource) :
    reportUnder config cert host = .ok (.authorized host name source.tag) ↔
      (verify (.ofFields (config.getD [])) cert host).outcome =
        .ok { host, verdict := .authorized name source } := by
  rw [reportUnder, Deliberation.report_eq_ok_iff]
  constructor
  · rintro ⟨decision, hd, hreport⟩
    obtain rfl := verify_host hd
    rw [hd, ← (decision.report_eq_authorized_iff name source).mp hreport]
  · intro hd
    exact ⟨_, hd, rfl⟩

theorem reportUnder_isAuthorized_iff :
    (∃ report, reportUnder config cert host = .ok report ∧ report.isAuthorized = .bool true) ↔
      (verify (.ofFields (config.getD [])) cert host).authorized = .ok true := by
  rw [Deliberation.authorized_eq_ok_iff]
  constructor
  · rintro ⟨report, hreport, hauthorized⟩
    obtain ⟨decision, hd, rfl⟩ := (Deliberation.report_eq_ok_iff _ _).mp hreport
    exact ⟨decision, hd, Value.bool.inj hauthorized⟩
  · rintro ⟨decision, hd, hauthorized⟩
    exact ⟨decision.report, (Deliberation.report_eq_ok_iff _ _).mpr ⟨decision, hd, rfl⟩,
      congrArg Value.bool hauthorized⟩

end Configuration

end Limits

end PeerName
