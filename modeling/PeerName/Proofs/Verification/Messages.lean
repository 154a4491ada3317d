import PeerName.Certificate.Basic
import PeerName.Proofs.Text.LineEnds
import PeerName.Proofs.Verification.Independence
import PeerName.X509.Certificate

/-!
# The messages of a decision

The host and the names of a certificate get into what a decision logs, and into the reason that it
gives for refusing.  They are quoted there, and the rest of a message is printable.  So as long as
the certificate can be read, no character of a message ends a line or controls a terminal, whatever
strangers have put into the names.  The report of a fault is passed on as it is; it is for the
source of the fault to see that nothing is hidden in it.

* `Unicode.IsControl`, `LineEnds.controls` — the characters that should not be in a message;
* `Verdict.Clear`, `clear_message` — the reason for refusing a host;
* `Certificate.Clear` — what a certificate says by itself;
* `Course.clear_refusal`, `Course.clear_log` — the messages of a course;
* `Certificate.Readable` — certificates that can be read, held in memory or looked up;
* `clear_messages` — **there are no control characters in messages**.
-/

namespace PeerName

/-! ### Control characters -/

/-- A control character, or a separator of lines or paragraphs. -/
def Unicode.IsControl (c : Char) : Prop :=
  c.toNat < 0x20 ∨ 0x7f ≤ c.toNat ∧ c.toNat < 0xa0 ∨ c.toNat = 0x2028 ∨ c.toNat = 0x2029

instance : DecidablePred Unicode.IsControl := fun _ => inferInstanceAs (Decidable (_ ∨ _))

namespace Unicode

/-- What lies in a range of the table is not printable. -/
theorem isPrintable_eq_false {c : Char} {range : Nat × Nat} (hrange : range ∈ unprintable)
    (hlow : 0x80 ≤ range.1) (h : range.1 ≤ c.toNat ∧ c.toNat ≤ range.2) :
    isPrintable c = false := by
  rw [isPrintable, if_neg (by omega), Bool.not_eq_false', inRanges, List.any_eq_true]
  exact ⟨range, hrange, by simp [h]⟩

theorem IsControl.isPrintable_eq_false {c : Char} (h : IsControl c) : isPrintable c = false := by
  have hupper : (0x80, 0xa0) ∈ unprintable := by decide +kernel
  have hseparators : (0x2028, 0x202f) ∈ unprintable := by decide +kernel
  rcases h with hlow | ⟨hdelete, hhigh⟩ | hline | hparagraph
  · rw [isPrintable, if_pos (by omega), decide_eq_false (by omega), Bool.false_and]
  · by_cases h7f : c.toNat < 0x80
    · rw [isPrintable, if_pos h7f, decide_eq_false (by omega : ¬c.toNat < 0x7f), Bool.and_false]
    · exact Unicode.isPrintable_eq_false hupper (by decide) ⟨by omega, by omega⟩
  · exact Unicode.isPrintable_eq_false hseparators (by decide) ⟨by omega, by omega⟩
  · exact Unicode.isPrintable_eq_false hseparators (by decide) ⟨by omega, by omega⟩

end Unicode

open Journal (Level Record)
open Text (LineEnds)
open Text.LineEnds (clear_of_visible)

/-- Every control character can be taken for the end of a line. -/
def Text.LineEnds.controls : LineEnds where
  ends c := Unicode.IsControl c
  feed := by decide
  unprintable := fun _ hc => (of_decide_eq_true hc).isPrintable_eq_false

variable {e : LineEnds} {policy : Policy} {cert : Certificate} {host : Value}

/-! ### The reason for refusing a host -/

theorem clear_quoted (v : Value) : e.Clear v.quoted :=
  clear_of_visible v.visible_quoted

/-- What a verdict brings into the line of a host is without line ends: the name that covers the
host, or the report of a fault. -/
def Verdict.Clear (e : LineEnds) : Verdict → Prop
  | .authorized name _ => e.Clear name.plain
  | .refused (.unreadable cause) => e.Clear cause.message
  | .refused _ => True

/-- The reason for refusing a host is one line, since the names in it are quoted. -/
theorem clear_message {reason : Refusal} (h : (Verdict.refused reason).Clear e) (host : Value) :
    e.Clear (reason.message host) := by
  have hhost : e.Clear "Host " := clear_of_visible (by decide)
  cases reason with
  | noCertificate =>
    show e.Clear "No peer certificate"
    exact clear_of_visible (by decide)
  | unreadable cause =>
    have hfault : e.Clear "Certificate name error: " := clear_of_visible (by decide)
    exact hfault.append h
  | notListed =>
    have hrest : e.Clear " is not listed in subjectAltName" :=
      clear_of_visible (by decide)
    exact (hhost.append (clear_quoted host)).append hrest
  | noAltNames =>
    show e.Clear "Certificate has no subjectAltName DNS entries"
    exact clear_of_visible (by decide)
  | noNames =>
    show e.Clear "Certificate has neither subjectAltName DNS entries nor a commonName"
    exact clear_of_visible (by decide)
  | otherName commonName =>
    have hother : e.Clear " does not match commonName " := clear_of_visible (by decide)
    exact ((hhost.append (clear_quoted host)).append hother).append (clear_quoted commonName)

/-! ### Courses -/

/-- What a certificate says by itself, in its records and in the reports of its faults, is without
line ends. -/
structure Certificate.Clear (e : LineEnds) (cert : Certificate) : Prop where
  log : ∀ place, ∀ r ∈ (cert.reading place).log, e.Clear r.message
  fault : ∀ place cause, (cert.reading place).outcome = .error cause → e.Clear cause.message

theorem clear_natText (n : Nat) : e.Clear (String.ofList (natText n)) := by
  apply clear_of_visible
  rw [String.toList_ofList]
  exact Text.visible_of_printable (printable_natText n)

theorem clear_notIterable (v : Value) : e.Clear (Mismatch.notIterable v.kind).message := by
  have hmark : e.Clear "'" := clear_of_visible (by decide)
  have hrest : e.Clear "' object is not iterable" := clear_of_visible (by decide)
  exact (hmark.append (clear_of_visible v.visible_kind)).append hrest

/-- What keeps values from being written out can be written out itself. -/
theorem clear_hindrance [Limits] {desk : Desk} {values : List Value} {hindrance : Mismatch}
    (h : desk.hindrance? values = some hindrance) : e.Clear hindrance.message := by
  rcases Value.meets_of_itemsObstacle? h with rfl | ⟨most, -, rfl⟩
  · show e.Clear ("maximum recursion depth exceeded" ++ " while getting the repr of an object")
    exact clear_of_visible (by decide +kernel)
  · have hfront : e.Clear "Exceeds the limit (" := clear_of_visible (by decide)
    have hbehind : e.Clear " digits) for integer string conversion; " :=
      clear_of_visible (by decide +kernel)
    have hrest : e.Clear "use sys.set_int_max_str_digits() to increase the limit" :=
      clear_of_visible (by decide +kernel)
    exact (((hfront.append (clear_natText most)).append hbehind).append hrest)

theorem clear_faultRecord (host : Value) {cause : Fault} (h : e.Clear cause.message) :
    e.Clear ("Hostname verification failed for " ++ host.quoted ++ ": " ++ cause.message) := by
  have hfailed : e.Clear "Hostname verification failed for " :=
    clear_of_visible (by decide +kernel)
  have hcolon : e.Clear ": " := clear_of_visible (by decide)
  exact ((hfailed.append (clear_quoted host)).append hcolon).append h

/-- A record without line ends behind others. -/
theorem clear_behind {before : List Record} (hbefore : ∀ r ∈ before, e.Clear r.message)
    {level : Level} {message : String} (h : e.Clear message) :
    ∀ r ∈ before ++ [verifierRecord level message], e.Clear r.message :=
  List.forall_mem_append.mpr ⟨hbefore, List.forall_mem_singleton.mpr h⟩

theorem Certificate.Clear.logOf (hcert : cert.Clear e) (places : List Accessor) :
    ∀ r ∈ cert.logOf places, e.Clear r.message := by
  intro r hr
  obtain ⟨place, -, hplace⟩ := List.mem_flatMap.mp hr
  exact hcert.log place r hplace

section Limits

variable [Limits]

/-- The report of a fault brings no line end with it that the certificate has not brought. -/
theorem EndsInFault.clear {fallback : Bool} {places : List Accessor} {cause : Fault}
    (h : EndsInFault fallback cert host places cause) (hcert : cert.Clear e) :
    e.Clear cause.message := by
  cases h with
  | claim hclaim => exact hcert.fault .hasAltNames _ hclaim
  | altNames _ hnames => exact hcert.fault .altNames _ hnames
  | notIterable => exact clear_notIterable _
  | host _ _ _ hwrite => exact clear_hindrance hwrite
  | commonName _ _ hname => exact hcert.fault .commonName _ hname
  | otherName _ _ _ _ hwrite => exact clear_hindrance hwrite

/-- The reason of a course brings no line end with it that is not in the report of a fault. -/
theorem Course.clear_refusal {d : Deliberation} (h : Course policy cert host d)
    (hcert : cert.Clear e) {decision : Decision} (hd : d.outcome = .ok decision) {reason : Refusal}
    (hreason : decision.verdict = .refused reason) : (Verdict.refused reason).Clear e := by
  rw [← hreason]
  cases h with
  | fault h =>
    obtain ⟨-, rfl⟩ := (Deliberation.ofFault_outcome_eq_ok_iff _).mp hd
    exact h.clear hcert
  | listed =>
    cases hd
    cases hreason
  | commonName =>
    cases hd
    cases hreason
  | notListed =>
    cases hd
    trivial
  | noFallback =>
    cases hd
    trivial
  | noCommonName =>
    cases hd
    trivial
  | otherName =>
    cases hd
    trivial

/-- **No record of a course has a line end in it** that is not in the report of a fault. -/
theorem Course.clear_log {d : Deliberation} (h : Course policy cert host d)
    (hcert : cert.Clear e) : ∀ r ∈ d.log, e.Clear r.message := by
  have hbefore := hcert.logOf
  have hhost : e.Clear ("Host " ++ host.quoted) :=
    LineEnds.Clear.append (clear_of_visible (by decide)) (clear_quoted host)
  cases h with
  | @fault places cause h =>
    cases habout : cause.hindranceAbout? host with
    | none =>
      rw [Deliberation.ofFault_of_none habout]
      exact clear_behind (hbefore places) (clear_faultRecord host (h.clear hcert))
    | some hindrance =>
      rw [Deliberation.ofFault_of_some habout]
      exact hbefore places
  | @listed _ name =>
    have hmatched : e.Clear " matched SAN entry " := clear_of_visible (by decide)
    exact clear_behind (hbefore _) ((hhost.append hmatched).append (clear_quoted name))
  | @notListed _ items =>
    have hnone : e.Clear " matched none of " := clear_of_visible (by decide)
    have hentries : e.Clear " SAN entries" := clear_of_visible (by decide)
    exact clear_behind (hbefore _)
      (((hhost.append hnone).append (clear_natText items.length)).append hentries)
  | @commonName name =>
    have hmatched : e.Clear " matched legacy commonName " := clear_of_visible (by decide)
    exact clear_behind (hbefore _) ((hhost.append hmatched).append (clear_quoted name))
  | noFallback => exact hbefore _
  | noCommonName => exact hbefore _
  | otherName => exact hbefore _

/-- Neither has what keeps a report from being written out. -/
theorem BreaksDown.clear {fallback : Bool} {cert : Option Certificate} {hindrance : Mismatch}
    (h : BreaksDown fallback cert host hindrance) : e.Clear hindrance.message := by
  cases cert with
  | none => exact clear_hindrance h
  | some cert =>
    obtain ⟨places, cause, -, habout⟩ := h
    rw [Fault.hindranceAbout?, Option.or_eq_some_iff] at habout
    rcases habout with hhost | ⟨-, hcause⟩
    · exact clear_hindrance hhost
    · cases cause with
      | missingKey key => exact clear_hindrance hcause
      | _ => cases hcause

/-- Without a certificate, the host alone gets into the record. -/
theorem verify_none_clear : ∀ r ∈ (verify policy none host).log, e.Clear r.message := by
  have hnone : e.Clear "No peer certificate to verify against " :=
    clear_of_visible (by decide +kernel)
  rw [verify]
  cases Desk.verifier.hindrance? [host] with
  | none => exact List.forall_mem_singleton.mpr (hnone.append (clear_quoted host))
  | some hindrance => exact List.forall_mem_nil _

theorem verify_none_verdict {decision : Decision}
    (hd : (verify policy none host).outcome = .ok decision) :
    decision.verdict = .refused .noCertificate := by
  rw [verify] at hd
  cases hwrite : Desk.verifier.hindrance? [host] with
  | none =>
    rw [hwrite] at hd
    cases hd
    rfl
  | some hindrance =>
    rw [hwrite] at hd
    cases hd

end Limits

/-! ### Certificates that can be read -/

/-- Names that are held in memory are read in silence and without fail. -/
theorem InMemory.certificate_clear (names : InMemory) : names.certificate.Clear e where
  log := by
    intro place r hr
    cases place <;> cases hr
  fault := by
    intro place cause h
    cases place <;> cases h

/-- The one thing that looked-up names have to log tells the kind of a value. -/
theorem Certificate.clear_log_ofLookups (altNames : Except Fault (Option (List Value)))
    (commonNames : Except Fault (List Value)) (place : Accessor) :
    ∀ r ∈ ((Certificate.ofLookups altNames commonNames).reading place).log,
      e.Clear r.message := by
  intro r hr
  cases place with
  | hasAltNames => cases hr
  | altNames => cases hr
  | commonName =>
    cases commonNames with
    | error cause => cases hr
    | ok names =>
      change r ∈ (commonNameReading names).log at hr
      rw [commonNameReading] at hr
      split at hr
      · cases hr
      · cases hr
      · next v _ _ =>
        rw [List.mem_singleton.mp hr]
        have hignoring : e.Clear "Ignoring non-text commonName of type " :=
          clear_of_visible (by decide +kernel)
        exact hignoring.append (clear_of_visible v.visible_kind)

/-- The certificates that can be read: those that hold their names in memory, and those whose names
are looked up, as in an encoded certificate, provided that no place is faulty. -/
inductive Certificate.Readable : Certificate → Prop
  | inMemory (names : InMemory) : Readable names.certificate
  | lookedUp (altNames : Except Fault (Option (List Value)))
      (commonNames : Except Fault (List Value))
      (h : ∀ place, ∃ v,
        ((Certificate.ofLookups altNames commonNames).reading place).outcome = .ok v) :
      Readable (.ofLookups altNames commonNames)

theorem Certificate.Readable.clear (h : cert.Readable) : cert.Clear e := by
  cases h with
  | inMemory names => exact names.certificate_clear
  | lookedUp altNames commonNames hread =>
    refine ⟨Certificate.clear_log_ofLookups altNames commonNames, fun place cause hcause => ?_⟩
    obtain ⟨v, hv⟩ := hread place
    rw [hv] at hcause
    cases hcause

/-! ### The law -/

/-- **There are no control characters in messages**, neither in the records that are logged nor in
the reason for refusing a host, as long as the certificate can be read; nor in the report of what
kept a decision from being reported.  The host and the names can be anything, and hold any
characters. -/
theorem clear_messages [Limits] (config : Option (List (String × Value)))
    {cert : Option Certificate} (hcert : ∀ c, cert = some c → c.Readable) (host : Value) :
    let d := decisionUnder config cert host
    (∀ r ∈ d.log, ∀ c ∈ r.message.toList, ¬Unicode.IsControl c) ∧
      (∀ decision message, d.outcome = .ok decision → decision.refusal? = some message →
        ∀ c ∈ message.toList, ¬Unicode.IsControl c) ∧
      ∀ hindrance, d.outcome = .error hindrance →
        ∀ c ∈ hindrance.message.toList, ¬Unicode.IsControl c := by
  intro d
  have hcontrol {s : String} (h : LineEnds.controls.Clear s) :
      ∀ c ∈ s.toList, ¬Unicode.IsControl c :=
    fun c hc => of_decide_eq_false (h c hc)
  have hlog : ∀ r ∈ d.log, LineEnds.controls.Clear r.message := by
    cases cert with
    | none => exact verify_none_clear
    | some cert => exact (course_verify _ cert host).clear_log (hcert cert rfl).clear
  have hreason {decision : Decision} {reason : Refusal} (hd : d.outcome = .ok decision)
      (hverdict : decision.verdict = .refused reason) :
      (Verdict.refused reason).Clear LineEnds.controls := by
    cases cert with
    | none =>
      rw [← hverdict, verify_none_verdict hd]
      trivial
    | some cert =>
      exact (course_verify _ cert host).clear_refusal (hcert cert rfl).clear hd hverdict
  refine ⟨fun r hr => hcontrol (hlog r hr), ?_, fun hindrance hd =>
    hcontrol ((outcome_eq_error_iff cert hindrance).mp hd).clear⟩
  intro decision message hd hmessage
  rw [Decision.refusal?] at hmessage
  cases hverdict : decision.verdict with
  | authorized name source =>
    rw [hverdict] at hmessage
    cases hmessage
  | refused reason =>
    rw [hverdict] at hmessage
    obtain rfl := Option.some.inj hmessage
    exact hcontrol (clear_message (hreason hd hverdict) decision.host)

/-- A host with a line end in it, a common name that goes on with a record of its own making, and
a name of a kind that is not a text. -/
theorem clear_messages_forged :
    let _ : Limits := .usual
    let host : Value := .text "foo\n.test"
    let held := InMemory.certificate { commonName := .text "bar.test\r\nDEBUG authorized" }
    let lookedUp := Certificate.ofLookups (.ok none) (.ok [.bytes [10]])
    let deliberation (cert : Certificate) := decisionUnder none (some cert) host
    (held.Readable ∧
      (deliberation held).outcome = .ok { host, verdict := .refused (.otherName
        (.text "bar.test\r\nDEBUG authorized")) } ∧
      ∀ c ∈ (Refusal.message host (.otherName
        (.text "bar.test\r\nDEBUG authorized"))).toList, ¬Unicode.IsControl c) ∧
    (lookedUp.Readable ∧
      (deliberation lookedUp).log.map (·.message) =
        ["Ignoring non-text commonName of type bytes"] ∧
      ∀ r ∈ (deliberation lookedUp).log, ∀ c ∈ r.message.toList, ¬Unicode.IsControl c) := by
  intro _ host held lookedUp deliberation
  have hheld : held.Readable := .inMemory _
  have hlookedUp : lookedUp.Readable := by
    refine .lookedUp _ _ fun place => ?_
    cases place <;> exact ⟨_, rfl⟩
  have hlaw (cert : Certificate) (h : cert.Readable) :=
    @clear_messages _ none (some cert) (fun c hc => Option.some.inj hc ▸ h) host
  have houtcome : (deliberation held).outcome = .ok { host, verdict := .refused (.otherName
      (.text "bar.test\r\nDEBUG authorized")) } := rfl
  exact ⟨⟨hheld, houtcome, (hlaw held hheld).2.1 _ _ houtcome rfl⟩,
    ⟨hlookedUp, by decide +kernel, (hlaw lookedUp hlookedUp).1⟩⟩

end PeerName
