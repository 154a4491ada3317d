import PeerName.Proofs.Verification.Law

/-!
# What a decision reads

A decision looks at the certificate in at most two places.  First it asks whether there are
alternative names.  If the answer is yes, it goes on to these; if it is no and the policy admits
it, to the common name; in all other cases it ends there.  What it does not look at has no
influence on it: not on the verdict, not on the reason, not on the records that are logged.  So the
common name of a certificate that claims alternative names cannot authorize anybody, and cannot
even show by a fault of its own that it is there.

* `Certificate.SameAt` — two certificates hold the same in some places;
* `Course.calls_cases` — the places that a course looks at, and what leads there;
* `Course.of_sameAt` — a course is open to every certificate that holds the same in its places;
* `verify_eq_of_sameAt` — a decision depends only on the places that it looks at;
* `decisionUnder_depends_on_calls` — **the places looked at, and what cannot matter**.
-/

namespace PeerName

/-- Another certificate holds the same in these places: the same value or the same fault, with the
same records. -/
def Certificate.SameAt (cert other : Certificate) (places : List Accessor) : Prop :=
  ∀ place ∈ places, other.reading place = cert.reading place

variable {policy : Policy} {cert other : Certificate} {host : Value}

/-- What certificates that hold the same in some places log there. -/
theorem Certificate.SameAt.logOf_eq {places : List Accessor} (h : cert.SameAt other places) :
    other.logOf places = cert.logOf places := by
  rw [Certificate.logOf, Certificate.logOf, List.flatMap_def, List.flatMap_def]
  exact congrArg List.flatten
    (List.map_congr_left fun place hplace => congrArg Reading.log (h place hplace))

theorem Certificate.SameAt.claims {places : List Accessor}
    (h : cert.SameAt other (.hasAltNames :: places)) {answer : Bool} (hclaim : cert.Claims answer) :
    other.Claims answer := by
  obtain ⟨claim, hread, htruthy⟩ := hclaim
  have hfirst : other.hasAltNames = cert.hasAltNames := h .hasAltNames List.mem_cons_self
  exact ⟨claim, hfirst ▸ hread, htruthy⟩

/-- What is held in the second of two places. -/
theorem Certificate.SameAt.outcome {place : Accessor} {outcome : Except Fault Value}
    (h : cert.SameAt other [.hasAltNames, place]) (hread : (cert.reading place).outcome = outcome) :
    (other.reading place).outcome = outcome := by
  rw [h place (List.mem_cons_of_mem _ List.mem_cons_self), hread]

section Limits

variable [Limits]

/-- The deliberation about a host under a configuration. -/
def decisionUnder (config : Option (List (String × Value))) (cert : Option Certificate)
    (host : Value) : Deliberation :=
  verify (.ofFields (config.getD [])) cert host

/-! ### The places of a course -/

/-- What is looked at on the way to a fault. -/
theorem EndsInFault.places_cases {places : List Accessor} {cause : Fault} {fallback : Bool}
    (h : EndsInFault fallback cert host places cause) :
    (places = [.hasAltNames, .altNames] ∧ cert.Claims true) ∨
      (places = [.hasAltNames, .commonName] ∧ cert.Claims false ∧ fallback = true) ∨
      (places = [.hasAltNames] ∧ ∀ answer, ¬cert.Claims answer) := by
  cases h with
  | claim hclaim =>
    exact Or.inr (Or.inr ⟨rfl, fun _ => Certificate.not_claims_of_error hclaim⟩)
  | altNames hclaim => exact Or.inl ⟨rfl, hclaim⟩
  | notIterable hclaim => exact Or.inl ⟨rfl, hclaim⟩
  | host hclaim => exact Or.inl ⟨rfl, hclaim⟩
  | commonName hclaim hfallback => exact Or.inr (Or.inl ⟨rfl, hclaim, hfallback⟩)
  | otherName hclaim hfallback => exact Or.inr (Or.inl ⟨rfl, hclaim, hfallback⟩)

theorem Deliberation.ofFault_calls (cause : Fault) (log : List Journal.Record)
    (calls : List Accessor) : (Deliberation.ofFault host cause log calls).calls = calls := by
  rw [Deliberation.ofFault]
  split <;> rfl

/-- A course looks at the alternative names if they are claimed, at the common name if none are
claimed and the policy admits it, and otherwise at neither. -/
theorem Course.calls_cases {d : Deliberation} (h : Course policy cert host d) :
    (d.calls = [.hasAltNames, .altNames] ∧ cert.Claims true) ∨
      (d.calls = [.hasAltNames, .commonName] ∧ cert.Claims false ∧
        policy.commonNameFallback = true) ∨
      (d.calls = [.hasAltNames] ∧ ¬cert.Claims true ∧
        ¬(cert.Claims false ∧ policy.commonNameFallback = true)) := by
  cases h with
  | fault h =>
    rw [Deliberation.ofFault_calls]
    rcases h.places_cases with halt | hname | ⟨hplaces, hnone⟩
    · exact Or.inl halt
    · exact Or.inr (Or.inl hname)
    · exact Or.inr (Or.inr ⟨hplaces, hnone true, fun h => hnone false h.1⟩)
  | listed hclaim => exact Or.inl ⟨rfl, hclaim⟩
  | notListed hclaim => exact Or.inl ⟨rfl, hclaim⟩
  | noFallback hclaim hpolicy =>
    refine Or.inr (Or.inr ⟨rfl, ?_, ?_⟩)
    · intro htrue
      exact Certificate.not_claims_both htrue hclaim
    · rintro ⟨-, hadmitted⟩
      rw [hpolicy] at hadmitted
      exact Bool.false_ne_true hadmitted
  | noCommonName hclaim hpolicy => exact Or.inr (Or.inl ⟨rfl, hclaim, hpolicy⟩)
  | commonName hclaim hpolicy => exact Or.inr (Or.inl ⟨rfl, hclaim, hpolicy⟩)
  | otherName hclaim hpolicy => exact Or.inr (Or.inl ⟨rfl, hclaim, hpolicy⟩)

/-- Without a certificate nothing is looked at. -/
theorem verify_none_calls (policy : Policy) (host : Value) :
    (verify policy none host).calls = [] := by
  rw [verify]
  split <;> rfl

/-- The three ways to go on from the first place. -/
theorem verify_calls (policy : Policy) (cert : Certificate) (host : Value) :
    (verify policy (some cert) host).calls = [.hasAltNames] ∨
      (verify policy (some cert) host).calls = [.hasAltNames, .altNames] ∨
        (verify policy (some cert) host).calls = [.hasAltNames, .commonName] := by
  rcases (course_verify policy cert host).calls_cases with ⟨h, -⟩ | ⟨h, -⟩ | ⟨h, -⟩
  · exact Or.inr (Or.inl h)
  · exact Or.inr (Or.inr h)
  · exact Or.inl h

/-- The alternative names are looked at exactly when they are claimed. -/
theorem altNames_mem_calls_iff :
    .altNames ∈ (verify policy (some cert) host).calls ↔ cert.Claims true := by
  rcases (course_verify policy cert host).calls_cases with
    ⟨hcalls, hclaim⟩ | ⟨hcalls, hclaim, -⟩ | ⟨hcalls, hclaim, -⟩
  · rw [hcalls]
    exact iff_of_true (by decide) hclaim
  · rw [hcalls]
    exact iff_of_false (by decide) fun htrue => Certificate.not_claims_both htrue hclaim
  · rw [hcalls]
    exact iff_of_false (by decide) hclaim

/-- The common name is looked at exactly when no alternative names are claimed and the policy
admits it. -/
theorem commonName_mem_calls_iff :
    .commonName ∈ (verify policy (some cert) host).calls ↔
      cert.Claims false ∧ policy.commonNameFallback = true := by
  rcases (course_verify policy cert host).calls_cases with
    ⟨hcalls, hclaim⟩ | ⟨hcalls, hclaim⟩ | ⟨hcalls, -, hclaim⟩
  · rw [hcalls]
    refine iff_of_false (by decide) ?_
    rintro ⟨hfalse, -⟩
    exact Certificate.not_claims_both hclaim hfalse
  · rw [hcalls]
    exact iff_of_true (by decide) hclaim
  · rw [hcalls]
    exact iff_of_false (by decide) hclaim

/-! ### Two certificates -/

/-- The way to a fault is the same for every certificate that holds the same on it. -/
theorem EndsInFault.of_sameAt {places : List Accessor} {cause : Fault} {fallback : Bool}
    (h : EndsInFault fallback cert host places cause) (hsame : cert.SameAt other places) :
    EndsInFault fallback other host places cause := by
  cases h with
  | claim hclaim =>
    have hfirst : other.hasAltNames = cert.hasAltNames := hsame .hasAltNames List.mem_cons_self
    exact .claim (hfirst ▸ hclaim)
  | altNames hclaim hnames => exact .altNames (hsame.claims hclaim) (hsame.outcome hnames)
  | notIterable hclaim hnames hitems =>
    exact .notIterable (hsame.claims hclaim) (hsame.outcome hnames) hitems
  | host hclaim hnames hitems hwrite =>
    exact .host (hsame.claims hclaim) (hsame.outcome hnames) hitems hwrite
  | commonName hclaim hfallback hname =>
    exact .commonName (hsame.claims hclaim) hfallback (hsame.outcome hname)
  | otherName hclaim hfallback hname hnull hwrite =>
    exact .otherName (hsame.claims hclaim) hfallback (hsame.outcome hname) hnull hwrite

/-- A course is open to every certificate that holds the same in the places it looks at. -/
theorem Course.of_sameAt {d : Deliberation} (h : Course policy cert host d)
    (hsame : cert.SameAt other d.calls) : Course policy other host d := by
  have hlog := hsame.logOf_eq
  cases h with
  | fault h =>
    rw [Deliberation.ofFault_calls] at hlog hsame
    rw [← hlog]
    exact .fault (h.of_sameAt hsame)
  | listed hclaim hnames hitems hfirst =>
    rw [← hlog]
    exact .listed (hsame.claims hclaim) (hsame.outcome hnames) hitems hfirst
  | notListed hclaim hnames hitems hfirst hwrite =>
    rw [← hlog]
    exact .notListed (hsame.claims hclaim) (hsame.outcome hnames) hitems hfirst hwrite
  | noFallback hclaim hpolicy =>
    rw [← hlog]
    exact .noFallback (hsame.claims hclaim) hpolicy
  | noCommonName hclaim hpolicy hname =>
    rw [← hlog]
    exact .noCommonName (hsame.claims hclaim) hpolicy (hsame.outcome hname)
  | commonName hclaim hpolicy hname hcovers =>
    rw [← hlog]
    exact .commonName (hsame.claims hclaim) hpolicy (hsame.outcome hname) hcovers
  | otherName hclaim hpolicy hname hnull hcovers hwrite =>
    rw [← hlog]
    exact .otherName (hsame.claims hclaim) hpolicy (hsame.outcome hname) hnull hcovers hwrite

/-- **A decision depends only on the places that it looks at.** -/
theorem verify_eq_of_sameAt (h : cert.SameAt other (verify policy (some cert) host).calls) :
    verify policy (some other) host = verify policy (some cert) host :=
  ((course_verify policy cert host).of_sameAt h).verify_eq

/-- Where two certificates hold the same in the first place and the common name is not looked at,
it is enough that they hold the same alternative names. -/
theorem verify_eq_of_altNames (hfirst : other.hasAltNames = cert.hasAltNames)
    (halt : other.altNames = cert.altNames)
    (hunread : .commonName ∉ (verify policy (some cert) host).calls) :
    verify policy (some other) host = verify policy (some cert) host := by
  apply verify_eq_of_sameAt
  intro place hplace
  cases place with
  | hasAltNames => exact hfirst
  | altNames => exact halt
  | commonName => exact absurd hplace hunread

/-- Where two certificates hold the same in the first place and the alternative names are not
looked at, it is enough that they hold the same common name. -/
theorem verify_eq_of_commonName (hfirst : other.hasAltNames = cert.hasAltNames)
    (hname : other.commonName = cert.commonName)
    (hunread : .altNames ∉ (verify policy (some cert) host).calls) :
    verify policy (some other) host = verify policy (some cert) host := by
  apply verify_eq_of_sameAt
  intro place hplace
  cases place with
  | hasAltNames => exact hfirst
  | altNames => exact absurd hplace hunread
  | commonName => exact hname

/-! ### The law -/

/-- **The places looked at, and what cannot matter.**  Without a certificate nothing is looked at.
Otherwise a decision looks first whether there are alternative names, and then at nothing more, at
the alternative names or at the common name: at the former exactly when they are claimed, at the
latter exactly when they are not and the fallback is on.  Take two certificates that agree on
whether there are alternative names.  If that is claimed, or cannot be told, they get the same
decision as soon as they agree on the alternative names, whatever their common names are; if there
are none, as soon as they agree on the common name, whatever their alternative names are.  Without
the fallback the common names never matter.  The same decision is the same verdict for the same
reason, or none at all for the same reason, the same records, and the same places looked at. -/
theorem decisionUnder_depends_on_calls (config : Option (List (String × Value))) (host : Value) :
    let fallback := Policy.IsOn config "legacy_common_name_fallback"
    let decide (cert : Certificate) := decisionUnder config (some cert) host
    (decisionUnder config none host).calls = [] ∧
    (∀ cert : Certificate,
      ((decide cert).calls = [.hasAltNames] ∨ (decide cert).calls = [.hasAltNames, .altNames] ∨
        (decide cert).calls = [.hasAltNames, .commonName]) ∧
      (.altNames ∈ (decide cert).calls ↔ cert.Claims true) ∧
      (.commonName ∈ (decide cert).calls ↔ cert.Claims false ∧ fallback = true)) ∧
    (∀ cert other : Certificate, other.hasAltNames = cert.hasAltNames →
      ((cert.Claims true ∨ ∃ cause, cert.hasAltNames.outcome = .error cause) →
        other.altNames = cert.altNames → decide other = decide cert) ∧
      (cert.Claims false → other.commonName = cert.commonName → decide other = decide cert) ∧
      (fallback = false → other.altNames = cert.altNames → decide other = decide cert)) := by
  intro fallback decide
  have hfallback : (Policy.ofFields (config.getD [])).commonNameFallback = fallback :=
    ofFields_commonNameFallback config
  have hname (cert : Certificate) :
      .commonName ∈ (decide cert).calls ↔ cert.Claims false ∧ fallback = true := by
    rw [← hfallback]
    exact commonName_mem_calls_iff
  refine ⟨verify_none_calls _ host,
    fun cert => ⟨verify_calls _ cert host, altNames_mem_calls_iff, hname cert⟩, ?_⟩
  intro cert other hfirst
  refine ⟨?_, ?_, ?_⟩
  · intro hclaim halt
    refine verify_eq_of_altNames hfirst halt fun hmem => ?_
    obtain ⟨hfalse, -⟩ := (hname cert).mp hmem
    rcases hclaim with htrue | ⟨cause, hcause⟩
    · exact Certificate.not_claims_both htrue hfalse
    · exact Certificate.not_claims_of_error hcause hfalse
  · intro hclaim hcommon
    refine verify_eq_of_commonName hfirst hcommon fun hmem => ?_
    exact Certificate.not_claims_both (altNames_mem_calls_iff.mp hmem) hclaim
  · intro hoff halt
    refine verify_eq_of_altNames hfirst halt fun hmem => ?_
    obtain ⟨-, hon⟩ := (hname cert).mp hmem
    rw [hoff] at hon
    exact Bool.false_ne_true hon

end Limits

/-- A common name that cannot be read, beside a listed name; alternative names that cannot be read,
where none are claimed; and a common name that nobody asks for. -/
theorem decisionUnder_foo_test :
    let _ : Limits := .usual
    let host : Value := .text "foo.test"
    let trap : Reading := { outcome := .error (.raised "RuntimeError" "trap") }
    let claiming : Certificate :=
      ⟨{ outcome := .ok (.bool true) }, { outcome := .ok (.list [.text "foo.test"]) },
        { outcome := .ok (.text "bar.test") }⟩
    let silent : Certificate :=
      ⟨{ outcome := .ok (.int 0) }, { outcome := .ok (.list [.text "bar.test"]) },
        { outcome := .ok (.text "foo.test") }⟩
    let strict := some [("legacy_common_name_fallback", Value.bool false)]
    (claiming.Claims true ∧
      decisionUnder none (some { claiming with commonName := trap }) host =
        decisionUnder none (some claiming) host ∧
      (decisionUnder none (some claiming) host).authorized = .ok true) ∧
    (silent.Claims false ∧
      decisionUnder none (some { silent with altNames := trap }) host =
        decisionUnder none (some silent) host ∧
      (decisionUnder none (some silent) host).authorized = .ok true) ∧
    (Policy.IsOn strict "legacy_common_name_fallback" = false ∧
      decisionUnder strict (some { silent with commonName := trap }) host =
        decisionUnder strict (some silent) host ∧
      (decisionUnder strict (some silent) host).authorized = .ok false) := by
  intro _ host trap claiming silent strict
  have hclaiming : claiming.Claims true := ⟨.bool true, rfl, rfl⟩
  have hsilent : silent.Claims false := ⟨.int 0, rfl, rfl⟩
  have hoff : Policy.IsOn strict "legacy_common_name_fallback" = false := rfl
  refine ⟨⟨hclaiming, ?_, rfl⟩, ⟨hsilent, ?_, rfl⟩,
    ⟨hoff, ?_, rfl⟩⟩
  · exact ((decisionUnder_depends_on_calls none host).2.2 claiming
      { claiming with commonName := trap } rfl).1 (Or.inl hclaiming) rfl
  · exact ((decisionUnder_depends_on_calls none host).2.2 silent
      { silent with altNames := trap } rfl).2.1 hsilent rfl
  · exact ((decisionUnder_depends_on_calls strict host).2.2 silent
      { silent with commonName := trap } rfl).2.2 hoff rfl

end PeerName
