import PeerName.Verification.Decision

/-!
# The courses of a decision

A deliberation about a certificate takes one of seven courses.  Each is given by what the places of
the certificate hold, as far as they are looked at, and each determines the outcome, the records
and the places looked at.  One of them ends in a fault, to which there are six ways.  Whatever is
said of all decisions is said by going through the courses; the program itself is opened only here.

* `Certificate.Claims` — what a certificate says about having alternative names;
* `Certificate.logOf` — what a certificate logs in the places looked at;
* `EndsInFault` — the ways to a fault;
* `Course` — the seven courses;
* `Course.verify_eq` — a course determines the deliberation;
* `course_verify` — **every deliberation about a certificate takes one of them**.
-/

namespace PeerName

open Journal (Record)

/-- What a certificate says about having alternative names reads as this truth value. -/
def Certificate.Claims (cert : Certificate) (answer : Bool) : Prop :=
  ∃ claim, cert.hasAltNames.outcome = .ok claim ∧ claim.isTruthy = answer

/-- What a certificate logs while some of its places are looked at. -/
def Certificate.logOf (cert : Certificate) (places : List Accessor) : List Record :=
  places.flatMap fun place => (cert.reading place).log

/-- A fault ends the deliberation, after these places have been looked at. -/
inductive EndsInFault [Limits] (fallback : Bool) (cert : Certificate) (host : Value) :
    List Accessor → Fault → Prop
  /-- Whether there are alternative names cannot be read. -/
  | claim {cause : Fault} (hclaim : cert.hasAltNames.outcome = .error cause) :
    EndsInFault fallback cert host [.hasAltNames] cause
  /-- The alternative names cannot be read. -/
  | altNames {cause : Fault} (hclaim : cert.Claims true)
      (hnames : cert.altNames.outcome = .error cause) :
    EndsInFault fallback cert host [.hasAltNames, .altNames] cause
  /-- The alternative names are nothing that can be gone through. -/
  | notIterable {names : Value} (hclaim : cert.Claims true)
      (hnames : cert.altNames.outcome = .ok names) (hitems : names.elements? = none) :
    EndsInFault fallback cert host [.hasAltNames, .altNames] (.mismatch (.notIterable names.kind))
  /-- The alternative names have been gone through, and the host cannot be written out. -/
  | host {names : Value} {items : List Value} {hindrance : Mismatch} (hclaim : cert.Claims true)
      (hnames : cert.altNames.outcome = .ok names) (hitems : names.elements? = some items)
      (hwrite : Desk.names.hindrance? [host] = some hindrance) :
    EndsInFault fallback cert host [.hasAltNames, .altNames] (.mismatch hindrance)
  /-- The common name is needed and cannot be read. -/
  | commonName {cause : Fault} (hclaim : cert.Claims false) (hfallback : fallback = true)
      (hname : cert.commonName.outcome = .error cause) :
    EndsInFault fallback cert host [.hasAltNames, .commonName] cause
  /-- The host or its common name cannot be written out. -/
  | otherName {name : Value} {hindrance : Mismatch} (hclaim : cert.Claims false)
      (hfallback : fallback = true) (hname : cert.commonName.outcome = .ok name)
      (hnull : name ≠ .null) (hwrite : Desk.names.hindrance? [host, name] = some hindrance) :
    EndsInFault fallback cert host [.hasAltNames, .commonName] (.mismatch hindrance)

/-- The courses of a deliberation about a certificate. -/
inductive Course [Limits] (policy : Policy) (cert : Certificate) (host : Value) :
    Deliberation → Prop
  /-- A fault ends the deliberation. -/
  | fault {places : List Accessor} {cause : Fault}
      (h : EndsInFault policy.commonNameFallback cert host places cause) :
    Course policy cert host (.ofFault host cause (cert.logOf places) places)
  /-- An alternative name covers the host. -/
  | listed {names name : Value} {items : List Value} (hclaim : cert.Claims true)
      (hnames : cert.altNames.outcome = .ok names) (hitems : names.elements? = some items)
      (hfirst : Host.firstCovering policy.wildcards items host = some name) :
    Course policy cert host
      { outcome := .ok { host, verdict := .authorized name .altName }
        calls := [.hasAltNames, .altNames]
        log := cert.logOf [.hasAltNames, .altNames] ++ [verifierRecord .debug
          ("Host " ++ host.quoted ++ " matched SAN entry " ++ name.quoted)] }
  /-- No alternative name covers the host. -/
  | notListed {names : Value} {items : List Value} (hclaim : cert.Claims true)
      (hnames : cert.altNames.outcome = .ok names) (hitems : names.elements? = some items)
      (hfirst : Host.firstCovering policy.wildcards items host = none)
      (hwrite : Desk.names.hindrance? [host] = none) :
    Course policy cert host
      { outcome := .ok { host, verdict := .refused .notListed }
        calls := [.hasAltNames, .altNames]
        log := cert.logOf [.hasAltNames, .altNames] ++ [verifierRecord .debug
          ("Host " ++ host.quoted ++ " matched none of "
            ++ String.ofList (natText items.length) ++ " SAN entries")] }
  /-- There are no alternative names, and the policy asks for them. -/
  | noFallback (hclaim : cert.Claims false) (hpolicy : policy.commonNameFallback = false) :
    Course policy cert host
      { outcome := .ok { host, verdict := .refused .noAltNames }
        calls := [.hasAltNames]
        log := cert.logOf [.hasAltNames] }
  /-- There is no common name. -/
  | noCommonName (hclaim : cert.Claims false) (hpolicy : policy.commonNameFallback = true)
      (hname : cert.commonName.outcome = .ok .null) :
    Course policy cert host
      { outcome := .ok { host, verdict := .refused .noNames }
        calls := [.hasAltNames, .commonName]
        log := cert.logOf [.hasAltNames, .commonName] }
  /-- The common name covers the host. -/
  | commonName {name : Value} (hclaim : cert.Claims false)
      (hpolicy : policy.commonNameFallback = true) (hname : cert.commonName.outcome = .ok name)
      (hcovers : Host.coversValue policy.wildcards name host = true) :
    Course policy cert host
      { outcome := .ok { host, verdict := .authorized name .commonName }
        calls := [.hasAltNames, .commonName]
        log := cert.logOf [.hasAltNames, .commonName] ++ [verifierRecord .debug
          ("Host " ++ host.quoted ++ " matched legacy commonName " ++ name.quoted)] }
  /-- The common name does not cover the host. -/
  | otherName {name : Value} (hclaim : cert.Claims false)
      (hpolicy : policy.commonNameFallback = true) (hname : cert.commonName.outcome = .ok name)
      (hnull : name ≠ .null) (hcovers : Host.coversValue policy.wildcards name host = false)
      (hwrite : Desk.names.hindrance? [host, name] = none) :
    Course policy cert host
      { outcome := .ok { host, verdict := .refused (.otherName name) }
        calls := [.hasAltNames, .commonName]
        log := cert.logOf [.hasAltNames, .commonName] }

/-! ### Inspections -/

namespace Inspection

variable {α β : Type}

theorem bind_of_ok {x : Inspection α} {f : α → Inspection β} {a : α} (h : x.outcome = .ok a) :
    x >>= f = ⟨x.calls ++ (f a).calls, x.log ++ (f a).log, (f a).outcome⟩ := by
  show bind x f = _
  rw [bind, h]

theorem bind_of_error {x : Inspection α} {f : α → Inspection β} {e : PeerName.Fault}
    (h : x.outcome = .error e) : x >>= f = ⟨x.calls, x.log, .error e⟩ := by
  show bind x f = _
  rw [bind, h]

/-- Values that can be written out do not keep an inspection from going on. -/
theorem quotable_bind_of_none [Limits] {values : List Value} {f : Unit → Inspection β}
    (h : Desk.names.hindrance? values = none) : quotable values >>= f = f () := by
  rw [quotable, h]
  exact bind_of_ok rfl

/-- Values that cannot be written out end an inspection. -/
theorem quotable_bind_of_some [Limits] {values : List Value} {f : Unit → Inspection β}
    {hindrance : Mismatch} (h : Desk.names.hindrance? values = some hindrance) :
    quotable values >>= f = fail (.mismatch hindrance) := by
  rw [quotable, h]
  exact bind_of_error rfl

end Inspection

variable {policy : Policy} {cert : Certificate} {host : Value}

/-- Looking at a place that can be read. -/
theorem Certificate.look_bind_of_ok {β : Type} (accessor : Accessor) {v : Value}
    {f : Value → Inspection β} (h : (cert.reading accessor).outcome = .ok v) :
    cert.look accessor >>= f =
      ⟨accessor :: (f v).calls, (cert.reading accessor).log ++ (f v).log, (f v).outcome⟩ :=
  Inspection.bind_of_ok h

/-- Looking at a place that cannot be read. -/
theorem Certificate.look_bind_of_error {β : Type} (accessor : Accessor) {cause : Fault}
    {f : Value → Inspection β} (h : (cert.reading accessor).outcome = .error cause) :
    cert.look accessor >>= f = ⟨[accessor], (cert.reading accessor).log, .error cause⟩ :=
  Inspection.bind_of_error h

/-- No certificate claims both. -/
theorem Certificate.not_claims_both (htrue : cert.Claims true) (hfalse : cert.Claims false) :
    False := by
  obtain ⟨claim, hread, htruthy⟩ := htrue
  obtain ⟨answer, hother, hfalsy⟩ := hfalse
  rw [hread, Except.ok.injEq] at hother
  rw [hother, hfalsy] at htruthy
  exact Bool.false_ne_true htruthy

/-- A certificate that cannot tell claims nothing. -/
theorem Certificate.not_claims_of_error {cause : Fault} {answer : Bool}
    (h : cert.hasAltNames.outcome = .error cause) : ¬cert.Claims answer := by
  rintro ⟨claim, hread, -⟩
  rw [h] at hread
  cases hread

theorem Certificate.logOf_pair (cert : Certificate) (place : Accessor) :
    cert.logOf [.hasAltNames, place] = cert.hasAltNames.log ++ (cert.reading place).log :=
  congrArg (cert.hasAltNames.log ++ ·) (List.append_nil _)

/-- Only texts cover each other. -/
theorem Host.exists_texts_of_coversValue {wildcards : Bool} {name host : Value}
    (h : Host.coversValue wildcards name host = true) :
    ∃ s t : String, name = .text s ∧ host = .text t := by
  cases name with
  | text s =>
    cases host with
    | text t => exact ⟨s, t, rfl, rfl⟩
    | _ => exact absurd h Bool.false_ne_true
  | _ => exact absurd h Bool.false_ne_true

theorem Host.coversValue_of_firstCovering {wildcards : Bool} {items : List Value}
    {host name : Value} (h : Host.firstCovering wildcards items host = some name) :
    Host.coversValue wildcards name host = true := by
  rw [Host.firstCovering] at h
  exact List.find?_some (p := (Host.coversValue wildcards · host)) h

section Limits

variable [Limits]

/-- A host and a name that covers it can always be written out. -/
theorem Desk.hindrance?_of_coversValue (desk : Desk) {wildcards : Bool} {name host : Value}
    (h : Host.coversValue wildcards name host = true) : desk.hindrance? [host, name] = none := by
  obtain ⟨s, t, rfl, rfl⟩ := Host.exists_texts_of_coversValue h
  rw [hindrance?_text, hindrance?_text, hindrance?_nil]

/-- A host that is covered can always be written out. -/
theorem Desk.hindrance?_of_covered (desk : Desk) {wildcards : Bool} {name host : Value}
    (h : Host.coversValue wildcards name host = true) : desk.hindrance? [host] = none := by
  obtain ⟨s, t, -, rfl⟩ := Host.exists_texts_of_coversValue h
  rw [hindrance?_text, hindrance?_nil]

/-! ### The inspection, part by part -/

/-- Where there are alternative names, the inspection goes on with them. -/
theorem judge_of_claims {own : List Record} {outcome : Except Fault Verdict}
    (hclaim : cert.Claims true)
    (h : judgeAltNames policy cert host = ⟨[.altNames], cert.altNames.log ++ own, outcome⟩) :
    judge policy cert host = ⟨[.hasAltNames, .altNames],
      cert.logOf [.hasAltNames, .altNames] ++ own, outcome⟩ := by
  obtain ⟨claim, hread, htruthy⟩ := hclaim
  rw [judge, Certificate.look_bind_of_ok .hasAltNames hread, htruthy, if_pos rfl, h,
    Certificate.logOf_pair, List.append_assoc]
  rfl

/-- Where there are none and the policy admits it, the inspection goes on with the common name. -/
theorem judge_of_fallback {own : List Record} {outcome : Except Fault Verdict}
    (hclaim : cert.Claims false) (hpolicy : policy.commonNameFallback = true)
    (h : judgeCommonName policy cert host = ⟨[.commonName], cert.commonName.log ++ own, outcome⟩) :
    judge policy cert host = ⟨[.hasAltNames, .commonName],
      cert.logOf [.hasAltNames, .commonName] ++ own, outcome⟩ := by
  obtain ⟨claim, hread, htruthy⟩ := hclaim
  rw [judge, Certificate.look_bind_of_ok .hasAltNames hread, htruthy, if_neg Bool.false_ne_true,
    if_pos hpolicy, h, Certificate.logOf_pair, List.append_assoc]
  rfl

theorem judge_of_noFallback (hclaim : cert.Claims false)
    (hpolicy : policy.commonNameFallback = false) :
    judge policy cert host =
      ⟨[.hasAltNames], cert.logOf [.hasAltNames], .ok (.refused .noAltNames)⟩ := by
  obtain ⟨claim, hread, htruthy⟩ := hclaim
  rw [judge, Certificate.look_bind_of_ok .hasAltNames hread, htruthy, if_neg Bool.false_ne_true,
    hpolicy, if_neg Bool.false_ne_true]
  rfl

theorem judge_of_claimFault {cause : Fault} (hclaim : cert.hasAltNames.outcome = .error cause) :
    judge policy cert host = ⟨[.hasAltNames], cert.logOf [.hasAltNames] ++ [], .error cause⟩ := by
  rw [List.append_nil]
  exact (Certificate.look_bind_of_error .hasAltNames hclaim).trans
    (congrArg (Inspection.mk _ · _) (List.append_nil _).symm)

theorem judgeAltNames_of_fault {cause : Fault} (hnames : cert.altNames.outcome = .error cause) :
    judgeAltNames policy cert host = ⟨[.altNames], cert.altNames.log ++ [], .error cause⟩ := by
  rw [List.append_nil]
  exact Certificate.look_bind_of_error .altNames hnames

theorem judgeAltNames_of_none {names : Value} (hnames : cert.altNames.outcome = .ok names)
    (hitems : names.elements? = none) :
    judgeAltNames policy cert host =
      ⟨[.altNames], cert.altNames.log ++ [], .error (.mismatch (.notIterable names.kind))⟩ := by
  rw [judgeAltNames, Certificate.look_bind_of_ok .altNames hnames, Value.elements, hitems]
  rfl

theorem judgeAltNames_of_first {names name : Value} {items : List Value}
    (hnames : cert.altNames.outcome = .ok names) (hitems : names.elements? = some items)
    (hfirst : Host.firstCovering policy.wildcards items host = some name) :
    judgeAltNames policy cert host = ⟨[.altNames], cert.altNames.log ++ [verifierRecord .debug
      ("Host " ++ host.quoted ++ " matched SAN entry " ++ name.quoted)],
      .ok (.authorized name .altName)⟩ := by
  have hwrite := Desk.names.hindrance?_of_coversValue (Host.coversValue_of_firstCovering hfirst)
  rw [judgeAltNames, Certificate.look_bind_of_ok .altNames hnames, Value.elements, hitems]
  simp only [hfirst, Inspection.quotable_bind_of_none hwrite]
  rfl

theorem judgeAltNames_of_no_first {names : Value} {items : List Value}
    (hnames : cert.altNames.outcome = .ok names) (hitems : names.elements? = some items)
    (hfirst : Host.firstCovering policy.wildcards items host = none)
    (hwrite : Desk.names.hindrance? [host] = none) :
    judgeAltNames policy cert host = ⟨[.altNames], cert.altNames.log ++ [verifierRecord .debug
      ("Host " ++ host.quoted ++ " matched none of " ++ String.ofList (natText items.length)
        ++ " SAN entries")], .ok (.refused .notListed)⟩ := by
  rw [judgeAltNames, Certificate.look_bind_of_ok .altNames hnames, Value.elements, hitems]
  simp only [hfirst, Inspection.quotable_bind_of_none hwrite]
  rfl

theorem judgeAltNames_of_unwritable {names : Value} {items : List Value} {hindrance : Mismatch}
    (hnames : cert.altNames.outcome = .ok names) (hitems : names.elements? = some items)
    (hwrite : Desk.names.hindrance? [host] = some hindrance) :
    judgeAltNames policy cert host =
      ⟨[.altNames], cert.altNames.log ++ [], .error (.mismatch hindrance)⟩ := by
  rw [judgeAltNames, Certificate.look_bind_of_ok .altNames hnames, Value.elements, hitems]
  -- a host that cannot be written out is no text, and nothing covers it
  cases hfirst : Host.firstCovering policy.wildcards items host with
  | some name =>
    have hcovered := Host.coversValue_of_firstCovering hfirst
    rw [Desk.names.hindrance?_of_covered hcovered] at hwrite
    cases hwrite
  | none =>
    simp only [hfirst, Inspection.quotable_bind_of_some hwrite]
    rfl

theorem judgeCommonName_of_fault {cause : Fault}
    (hname : cert.commonName.outcome = .error cause) :
    judgeCommonName policy cert host =
      ⟨[.commonName], cert.commonName.log ++ [], .error cause⟩ := by
  rw [List.append_nil]
  exact Certificate.look_bind_of_error .commonName hname

theorem judgeCommonName_of_covers {name : Value} (hname : cert.commonName.outcome = .ok name)
    (hcovers : Host.coversValue policy.wildcards name host = true) :
    judgeCommonName policy cert host = ⟨[.commonName], cert.commonName.log ++ [verifierRecord .debug
      ("Host " ++ host.quoted ++ " matched legacy commonName " ++ name.quoted)],
      .ok (.authorized name .commonName)⟩ := by
  have hwrite := Desk.names.hindrance?_of_coversValue hcovers
  obtain ⟨s, t, rfl, -⟩ := Host.exists_texts_of_coversValue hcovers
  rw [judgeCommonName, Certificate.look_bind_of_ok .commonName hname]
  simp only [hcovers, Inspection.quotable_bind_of_none hwrite]
  rfl

theorem judgeCommonName_of_null (hname : cert.commonName.outcome = .ok .null) :
    judgeCommonName policy cert host =
      ⟨[.commonName], cert.commonName.log ++ [], .ok (.refused .noNames)⟩ := by
  rw [judgeCommonName, Certificate.look_bind_of_ok .commonName hname]
  rfl

theorem judgeCommonName_of_other {name : Value} (hname : cert.commonName.outcome = .ok name)
    (hnull : name ≠ .null) (hcovers : Host.coversValue policy.wildcards name host = false)
    (hwrite : Desk.names.hindrance? [host, name] = none) :
    judgeCommonName policy cert host =
      ⟨[.commonName], cert.commonName.log ++ [], .ok (.refused (.otherName name))⟩ := by
  rw [judgeCommonName, Certificate.look_bind_of_ok .commonName hname]
  cases name with
  | null => exact absurd rfl hnull
  | _ =>
    simp only [Inspection.quotable_bind_of_none hwrite, hcovers]
    rfl

theorem judgeCommonName_of_unwritable {name : Value} {hindrance : Mismatch}
    (hname : cert.commonName.outcome = .ok name) (hnull : name ≠ .null)
    (hwrite : Desk.names.hindrance? [host, name] = some hindrance) :
    judgeCommonName policy cert host =
      ⟨[.commonName], cert.commonName.log ++ [], .error (.mismatch hindrance)⟩ := by
  rw [judgeCommonName, Certificate.look_bind_of_ok .commonName hname]
  cases name with
  | null => exact absurd rfl hnull
  | _ =>
    simp only [Inspection.quotable_bind_of_some hwrite]
    rfl

/-! ### Every deliberation takes a course -/

/-- The verdict of an inspection is that of the decision. -/
theorem verify_of_ok {verdict : Verdict} {log : List Record} {calls : List Accessor}
    (h : judge policy cert host = ⟨calls, log, .ok verdict⟩) :
    verify policy (some cert) host = { outcome := .ok { host, verdict }, log, calls } := by
  simp only [verify, h]

/-- The verdict of an inspection that has nothing to log. -/
theorem verify_of_silent {verdict : Verdict} {log : List Record} {calls : List Accessor}
    (h : judge policy cert host = ⟨calls, log ++ [], .ok verdict⟩) :
    verify policy (some cert) host = { outcome := .ok { host, verdict }, log, calls } := by
  rw [verify_of_ok h, List.append_nil]

/-- The inspection on the way to a fault. -/
theorem EndsInFault.judge_eq {places : List Accessor} {cause : Fault}
    (h : EndsInFault policy.commonNameFallback cert host places cause) :
    judge policy cert host = ⟨places, cert.logOf places ++ [], .error cause⟩ := by
  cases h with
  | claim hclaim => exact judge_of_claimFault hclaim
  | altNames hclaim hnames => exact judge_of_claims hclaim (judgeAltNames_of_fault hnames)
  | notIterable hclaim hnames hitems =>
    exact judge_of_claims hclaim (judgeAltNames_of_none hnames hitems)
  | host hclaim hnames hitems hwrite =>
    exact judge_of_claims hclaim (judgeAltNames_of_unwritable hnames hitems hwrite)
  | commonName hclaim hfallback hname =>
    exact judge_of_fallback hclaim hfallback (judgeCommonName_of_fault hname)
  | otherName hclaim hfallback hname hnull hwrite =>
    exact judge_of_fallback hclaim hfallback (judgeCommonName_of_unwritable hname hnull hwrite)

/-- A fault ends the deliberation with what is left to say of it. -/
theorem EndsInFault.verify_eq {places : List Accessor} {cause : Fault}
    (h : EndsInFault policy.commonNameFallback cert host places cause) :
    verify policy (some cert) host = .ofFault host cause (cert.logOf places) places := by
  simp only [verify, h.judge_eq, List.append_nil]

/-- **A course determines the deliberation.** -/
theorem Course.verify_eq {d : Deliberation} (h : Course policy cert host d) :
    verify policy (some cert) host = d := by
  cases h with
  | fault h => exact h.verify_eq
  | listed hclaim hnames hitems hfirst =>
    exact verify_of_ok (judge_of_claims hclaim (judgeAltNames_of_first hnames hitems hfirst))
  | notListed hclaim hnames hitems hfirst hwrite =>
    exact verify_of_ok (judge_of_claims hclaim
      (judgeAltNames_of_no_first hnames hitems hfirst hwrite))
  | noFallback hclaim hpolicy => exact verify_of_ok (judge_of_noFallback hclaim hpolicy)
  | noCommonName hclaim hpolicy hname =>
    exact verify_of_silent (judge_of_fallback hclaim hpolicy (judgeCommonName_of_null hname))
  | commonName hclaim hpolicy hname hcovers =>
    exact verify_of_ok (judge_of_fallback hclaim hpolicy
      (judgeCommonName_of_covers hname hcovers))
  | otherName hclaim hpolicy hname hnull hcovers hwrite =>
    exact verify_of_silent (judge_of_fallback hclaim hpolicy
      (judgeCommonName_of_other hname hnull hcovers hwrite))

/-- Where alternative names are claimed and can be gone through, some course is open. -/
theorem exists_course_of_elements {names : Value} {items : List Value}
    (hclaim : cert.Claims true) (hnames : cert.altNames.outcome = .ok names)
    (hitems : names.elements? = some items) : ∃ d, Course policy cert host d := by
  cases hfirst : Host.firstCovering policy.wildcards items host with
  | some name => exact ⟨_, .listed hclaim hnames hitems hfirst⟩
  | none =>
    cases hwrite : Desk.names.hindrance? [host] with
    | none => exact ⟨_, .notListed hclaim hnames hitems hfirst hwrite⟩
    | some hindrance => exact ⟨_, .fault (.host hclaim hnames hitems hwrite)⟩

/-- Where the common name is needed and can be read, some course is open. -/
theorem exists_course_of_commonName {name : Value} (hclaim : cert.Claims false)
    (hpolicy : policy.commonNameFallback = true) (hname : cert.commonName.outcome = .ok name) :
    ∃ d, Course policy cert host d := by
  by_cases hnull : name = .null
  · exact ⟨_, .noCommonName hclaim hpolicy (hnull ▸ hname)⟩
  · cases hcovers : Host.coversValue policy.wildcards name host with
    | true => exact ⟨_, .commonName hclaim hpolicy hname hcovers⟩
    | false =>
      cases hwrite : Desk.names.hindrance? [host, name] with
      | none => exact ⟨_, .otherName hclaim hpolicy hname hnull hcovers hwrite⟩
      | some hindrance =>
        exact ⟨_, .fault (.otherName hclaim hpolicy hname hnull hwrite)⟩

/-- Whatever the places of a certificate hold, some course is open. -/
theorem exists_course (policy : Policy) (cert : Certificate) (host : Value) :
    ∃ d, Course policy cert host d := by
  cases hclaim : cert.hasAltNames.outcome with
  | error cause => exact ⟨_, .fault (.claim hclaim)⟩
  | ok claim =>
    cases htruthy : claim.isTruthy with
    | true =>
      have hclaims : cert.Claims true := ⟨claim, hclaim, htruthy⟩
      cases hnames : cert.altNames.outcome with
      | error cause => exact ⟨_, .fault (.altNames hclaims hnames)⟩
      | ok names =>
        cases hitems : names.elements? with
        | none => exact ⟨_, .fault (.notIterable hclaims hnames hitems)⟩
        | some items => exact exists_course_of_elements hclaims hnames hitems
    | false =>
      have hclaims : cert.Claims false := ⟨claim, hclaim, htruthy⟩
      cases hpolicy : policy.commonNameFallback with
      | false => exact ⟨_, .noFallback hclaims hpolicy⟩
      | true =>
        cases hname : cert.commonName.outcome with
        | error cause => exact ⟨_, .fault (.commonName hclaims hpolicy hname)⟩
        | ok name => exact exists_course_of_commonName hclaims hpolicy hname

/-- **Every deliberation about a certificate takes one of the courses.** -/
theorem course_verify (policy : Policy) (cert : Certificate) (host : Value) :
    Course policy cert host (verify policy (some cert) host) := by
  obtain ⟨d, hd⟩ := exists_course policy cert host
  rwa [hd.verify_eq]

end Limits

end PeerName
