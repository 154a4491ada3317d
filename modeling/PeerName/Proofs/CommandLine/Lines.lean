import PeerName.Proofs.CommandLine.Status
import PeerName.Proofs.Host.WholeName
import PeerName.Proofs.Verification.Messages

/-!
# The lines of a report

A run prints one line for each host, and two lines about the names of the certificate if they are
to be shown.  The names are those of a stranger.  In the line of a host they are harmless: a name
that covers the host has nothing in it that the host has not, and a name that does not is quoted.
Shown by themselves they are printed as they are.  Every line end in them makes one more line,
which can say anything, also that a host is authorized.

* `Decision.clear_line` — the line of a host is one line;
* `namesText_eq` — the two lines about the names;
* `strays` — the line ends among the names that are shown;
* `printed_lines` — **the lines of a run**;
* `run_prints_forged_line` — a name that is taken for the line of a host.
-/

namespace PeerName

open Text (LineEnds)
open Text.LineEnds (clear_of_visible)

variable {e : LineEnds}

/-! ### The line of a host -/

/-- A character that ends a line is no letter, no star and no dot. -/
theorem Text.LineEnds.apart {c : Char} (hc : e.ends c = true) :
    (c.toNat < 'A'.toNat ∨ 'z'.toNat < c.toNat) ∧ c ≠ '*' ∧ c ≠ '.' := by
  have hhidden := e.unprintable c hc
  refine ⟨?_, ?_, ?_⟩
  · by_contra hletter
    have hlow : 0x41 ≤ c.toNat ∧ c.toNat ≤ 0x7a := by
      have hA : 'A'.toNat = 0x41 := rfl
      have hz : 'z'.toNat = 0x7a := rfl
      omega
    rw [Unicode.isPrintable, if_pos (by omega), Bool.and_eq_false_iff] at hhidden
    rcases hhidden with h | h
    · exact of_decide_eq_false h (by omega)
    · exact of_decide_eq_false h (by omega)
  · rintro rfl
    exact absurd hhidden (by decide)
  · rintro rfl
    exact absurd hhidden (by decide)

/-- A name that covers a host has a line end in it only if the host has. -/
theorem clear_of_covers {wildcards : Bool} {name host : Value}
    (h : Host.coversValue wildcards name host = true) (hhost : e.Clear host.plain) :
    e.Clear name.plain := by
  cases name with
  | text pattern =>
    cases host with
    | text host =>
      intro c hc
      by_contra hends
      rw [Bool.not_eq_false] at hends
      obtain ⟨hletter, hstar, hdot⟩ := LineEnds.apart hends
      have hmem : c ∈ host.toList := Host.mem_of_covers h hletter hstar hdot hc
      have hclear : e.ends c = false := hhost c hmem
      rw [hends] at hclear
      cases hclear
    | _ => exact absurd h Bool.false_ne_true
  | _ => exact absurd h Bool.false_ne_true

variable {policy : Policy} {cert : X509.Certificate} {host : Value}

/-- Nothing that comes from a certificate gets into the report of a fault in its encoding. -/
theorem clear_fault (accessor : Accessor) {cause : Fault}
    (h : (cert.certificate.reading accessor).outcome = .error cause) : e.Clear cause.message := by
  obtain ⟨fault, rfl⟩ := X509.Certificate.exists_of_reading_error h
  apply clear_of_visible
  cases fault <;> decide

theorem Verdict.Clear.line {d : Decision} (h : d.verdict.Clear e) (hhost : e.Clear d.host.plain) :
    e.Clear d.line := by
  obtain ⟨host, verdict⟩ := d
  cases verdict with
  | authorized name source =>
    have hok : e.Clear "OK      " := clear_of_visible (by decide)
    have hmatched : e.Clear " (matched " := clear_of_visible (by decide)
    have htag : e.Clear (Unicode.upper source.tag) := by
      apply clear_of_visible
      cases source <;> decide
    have hblank : e.Clear " " := clear_of_visible (by decide)
    have hclose : e.Clear ")" := clear_of_visible (by decide)
    exact (((((hok.append hhost).append hmatched).append htag).append hblank).append h).append
      hclose
  | refused reason =>
    have hreject : e.Clear "REJECT  " := clear_of_visible (by decide)
    have hopen : e.Clear " (" := clear_of_visible (by decide)
    have hclose : e.Clear ")" := clear_of_visible (by decide)
    exact (((hreject.append hhost).append hopen).append (clear_message h host)).append hclose

/-- An encoded certificate says nothing by itself that has a line end in it. -/
theorem X509.Certificate.certificate_clear (cert : X509.Certificate) :
    cert.certificate.Clear e where
  log := Certificate.clear_log_ofLookups _ _
  fault := fun place _ h => clear_fault place h

section Limits

variable [Limits]

/-- A verdict brings no line end with it. -/
theorem clear_verdict {d : Decision}
    (hd : (verify policy (some cert.certificate) host).outcome = .ok d)
    (hhost : e.Clear host.plain) : d.verdict.Clear e := by
  have hcourse := course_verify policy cert.certificate host
  cases hverdict : d.verdict with
  | authorized name source =>
    have houtcome : (verify policy (some cert.certificate) host).outcome =
        .ok { host, verdict := .authorized name source } := by
      rw [hd, ← verify_host hd, ← hverdict]
    rcases hcourse.authorized_cases houtcome with ⟨-, hfirst⟩ | ⟨-, s, rfl, hcommonName⟩
    · obtain ⟨-, names, before, after, -, -, hcovers, -⟩ := hfirst
      exact clear_of_covers hcovers hhost
    · exact clear_of_covers hcommonName.2.2.2 hhost
  | refused reason => exact hcourse.clear_refusal cert.certificate_clear hd hverdict

/-- **The line of a host is one line**, if there is no line end in the host. -/
theorem Decision.clear_line {d : Decision}
    (hd : (verify policy (some cert.certificate) host).outcome = .ok d)
    (hhost : e.Clear host.plain) : e.Clear d.line := by
  apply (clear_verdict hd hhost).line
  rw [verify_host hd]
  exact hhost

end Limits

namespace CommandLine

open Journal (Origin)

/-! ### The lines about the names -/

/-- The alternative names as they are shown. -/
def shownAltNames (names : Names) : String :=
  orNone (match names.altNames with
    | .list items => ", ".intercalate (items.map (·.plain))
    | v => v.plain)

/-- The common name as it is shown. -/
def shownCommonName (names : Names) : String :=
  orNone (match names.commonName with
    | .null => ""
    | v => v.plain)

theorem namesText_eq (names : Names) :
    namesText names = "Subject alternative DNS names: " ++ shownAltNames names ++ "\n"
      ++ "Common name: " ++ shownCommonName names ++ "\n" :=
  rfl

/-- The line ends among the names of a certificate, as far as a run shows them. -/
def strays (e : LineEnds) (r : Request) (cert : Certificate) : Nat :=
  if r.showNames then
    match cert.names.outcome with
    | .ok names =>
      (shownAltNames names).toList.countP e.ends + (shownCommonName names).toList.countP e.ends
    | .error _ => 0
  else 0

/-- A line that says that a host is authorized, or seems to. -/
def saysOk (line : List Char) : Bool := "OK ".toList.isPrefixOf line

theorem lines_namesText (names : Names) :
    e.lines (namesText names).toList =
      e.lines (("Subject alternative DNS names: " ++ shownAltNames names).toList ++ ['\n']) ++
        e.lines (("Common name: " ++ shownCommonName names).toList ++ ['\n']) := by
  have htext : (namesText names).toList =
      ("Subject alternative DNS names: " ++ shownAltNames names).toList ++
        '\n' :: (("Common name: " ++ shownCommonName names).toList ++ ['\n']) := by
    rw [namesText_eq]
    simp
  rw [htext, LineEnds.lines_append_feed]

variable {r : Request} {shown : String}

/-- What comes behind the text about the names begins a new line. -/
theorem Shows.lines_append {cert : Certificate} (h : Shows r cert shown) (back : List Char) :
    e.lines (shown.toList ++ back) = e.lines shown.toList ++ e.lines back := by
  cases h with
  | nothing => rfl
  | @names names =>
    have hfeed : ∃ front, (namesText names).toList = front ++ ['\n'] := by
      rw [namesText_eq, String.toList_append]
      exact ⟨_, rfl⟩
    obtain ⟨front, hfront⟩ := hfeed
    rw [hfront, List.append_assoc, List.singleton_append, LineEnds.lines_append_feed]

/-- The text about the names has two lines, and one more for each line end in the names. -/
theorem Shows.length_lines {cert : Certificate} (h : Shows r cert shown) :
    (e.lines shown.toList).length = (if r.showNames then 2 else 0) + strays e r cert := by
  cases h with
  | nothing hshow =>
    rw [strays, if_neg (Bool.not_eq_true _ ▸ hshow), if_neg (Bool.not_eq_true _ ▸ hshow)]
    rfl
  | @names names hshow hnames =>
    have hfirst : e.Clear "Subject alternative DNS names: " := clear_of_visible (by decide)
    have hsecond : e.Clear "Common name: " := clear_of_visible (by decide)
    rw [LineEnds.clear_iff_countP] at hfirst hsecond
    rw [lines_namesText, List.length_append, LineEnds.length_lines_feed,
      LineEnds.length_lines_feed, String.toList_append, String.toList_append, List.countP_append,
      List.countP_append, hfirst, hsecond, strays, if_pos hshow, if_pos hshow, hnames]
    dsimp only
    omega

/-- Without line ends in the names, the text about them says of no host that it is authorized. -/
theorem Shows.countP_saysOk {cert : Certificate} (h : Shows r cert shown)
    (hnone : strays e r cert = 0) : (e.lines shown.toList).countP saysOk = 0 := by
  cases h with
  | nothing hshow => rfl
  | @names names hshow hnames =>
    rw [strays, if_pos hshow, hnames] at hnone
    dsimp only at hnone
    obtain ⟨haltNames, hcommonName⟩ := Nat.add_eq_zero_iff.mp hnone
    have hfirst : e.Clear ("Subject alternative DNS names: " ++ shownAltNames names) :=
      (clear_of_visible (by decide)).append (LineEnds.clear_iff_countP.mpr haltNames)
    have hsecond : e.Clear ("Common name: " ++ shownCommonName names) :=
      (clear_of_visible (by decide)).append (LineEnds.clear_iff_countP.mpr hcommonName)
    rw [lines_namesText, LineEnds.lines_feed_of_clear hfirst,
      LineEnds.lines_feed_of_clear hsecond, String.toList_append, String.toList_append]
    rfl

/-! ### The lines of a run -/

theorem saysOk_line (d : Decision) : saysOk d.line.toList = d.isAuthorized := by
  obtain ⟨host, verdict⟩ := d
  cases verdict with
  | authorized name source =>
    simp only [Decision.line, String.toList_append, List.append_assoc]
    rfl
  | refused reason =>
    simp only [Decision.line, String.toList_append, List.append_assoc]
    rfl

section Limits

variable [Limits] {o : Nat → Origin} {site : Site} {s : Settings} {cert : X509.Certificate}

/-- A run whose status is 0 or 1 has come to its decisions. -/
theorem exists_decides {status : Status} (hwrite : r.writeDefault = none)
    (hresult : (runRequest o site r).result = .ok status)
    (hcode : status.code = 0 ∨ status.code = 1) :
    ∃ s cert shown, Decides o site r s cert shown := by
  by_contra h
  rcases runRequest_of_not_decides h hwrite with hmisuse | ⟨crash, hcrash⟩
  · rw [hmisuse] at hresult
    obtain rfl := Except.ok.inj hresult
    exact absurd hcode (by decide)
  · rw [hcrash] at hresult
    cases hresult

/-- Each decision is one about a host of the request. -/
theorem Request.Decided.exists_host {policy : Policy} {certificate : Certificate}
    {ds : List Decision} (h : r.Decided policy certificate ds) {d : Decision} (hd : d ∈ ds) :
    ∃ host ∈ r.hosts, (verify policy (some certificate) host.value).outcome = .ok d := by
  rw [Decided, Checker.Settles, List.forall₂_map_left_iff] at h
  generalize r.hosts = hosts at h ⊢
  induction h with
  | nil => cases hd
  | @cons host first hosts ds hfirst _ ih =>
    rcases List.mem_cons.mp hd with rfl | hd
    · exact ⟨host, List.mem_cons_self, hfirst.1⟩
    · obtain ⟨other, hother, houtcome⟩ := ih hd
      exact ⟨other, List.mem_cons_of_mem _ hother, houtcome⟩

/-- The lines of a run that decides: those of the text about the names, and one for each host. -/
theorem Decides.lines_eq (h : Decides o site r s cert shown) (hwrite : r.writeDefault = none)
    (hhosts : ∀ host, .given host ∈ r.hosts → e.Clear host) :
    ∃ ds, r.Decided s.policy cert.certificate ds ∧
      e.lines (runRequest o site r).stdout.toList =
        e.lines shown.toList ++ ds.map fun d => d.line.toList := by
  obtain ⟨ds, hds, -, hstdout⟩ := h.runRequest_eq hwrite
  refine ⟨ds, hds, ?_⟩
  have hclear : ∀ line ∈ ds.map Decision.line, e.Clear line := by
    intro line hmem
    obtain ⟨d, hd, rfl⟩ := List.mem_map.mp hmem
    obtain ⟨host, hhost, houtcome⟩ := hds.exists_host hd
    apply Decision.clear_line houtcome
    cases host with
    | given text => exact hhosts text hhost
    | nothing => exact clear_of_visible (by decide)
  have htext : (runRequest o site r).stdout.toList = shown.toList ++
      (String.join ((ds.map Decision.line).map (· ++ "\n"))).toList := by
    rw [hstdout, String.toList_append, decisionsText, List.map_map]
    rfl
  obtain ⟨-, -, -, -, -, hshown⟩ := h.exists_ready hwrite
  rw [htext, hshown.lines_append, LineEnds.lines_join hclear, List.map_map]
  rfl

/-- **The lines of a run.**  Take a run with the status 0 or 1, and hosts without line ends,
whatever counts as the end of a line.  It prints the text about the names, if this is asked for, and
then one line for each host in order.  In all there are as many lines as there are hosts, and two
more if the names are shown, and one more for each line end in the names that are shown; and as many
of them say that a host is authorized as there are authorized hosts, if no line end is in these
names. -/
theorem printed_lines (e : LineEnds) (o : Nat → Origin) (site : Site) (words : List String)
    (r : Request) (status : Status) (hwords : Request.ofWords words = .ok (.request r))
    (hwrite : r.writeDefault = none) (hhosts : ∀ host, .given host ∈ r.hosts → e.Clear host)
    (hresult : (run o site words).result = .ok status)
    (hcode : status.code = 0 ∨ status.code = 1) :
    ∃ s cert shown ds, Decides o site r s cert shown ∧
      List.Forall₂ (fun host d =>
        (verify s.policy (some cert.certificate) host.value).outcome = .ok d) r.hosts ds ∧
      let lines := e.lines (run o site words).stdout.toList
      let added := strays e r cert.certificate
      lines = e.lines shown.toList ++ ds.map (fun d => d.line.toList) ∧
        lines.length = (if r.showNames then 2 else 0) + r.hosts.length + added ∧
        (added = 0 → lines.countP saysOk = ds.countP Decision.isAuthorized) := by
  have hrun : run o site words = runRequest o site r := by
    rw [run, hwords]
  rw [hrun] at hresult ⊢
  obtain ⟨s, cert, shown, hdecides⟩ := exists_decides hwrite hresult hcode
  obtain ⟨-, -, -, -, -, hshown⟩ := hdecides.exists_ready hwrite
  obtain ⟨ds, hds, hlines⟩ := hdecides.lines_eq hwrite hhosts
  have hdecided := (List.forall₂_map_left_iff.mp hds).imp fun host d hd => hd.1
  refine ⟨s, cert, shown, ds, hdecides, hdecided, hlines, ?_, ?_⟩
  · rw [hlines, List.length_append, List.length_map, hshown.length_lines, hdecided.length_eq]
    omega
  · intro hnone
    rw [hlines, List.countP_append, List.countP_map, hshown.countP_saysOk hnone, Nat.zero_add]
    apply List.countP_congr
    intro d _
    rw [Function.comp_apply, saysOk_line]

end Limits

/-- What a run prints with a certificate in a file, and its status. -/
def printedWith [Limits] (der : List UInt8) (words : List String) : Option Nat × String :=
  let outcome := run sampleOrigin (sampleSite der) words
  (outcome.result.toOption.map Status.code, outcome.stdout)

theorem exists_status [Limits] {der : List UInt8} {words : List String} {code : Nat} {text : String}
    (h : printedWith der words = (some code, text)) :
    (∃ status, (run sampleOrigin (sampleSite der) words).result = .ok status ∧
      status.code = code) ∧ (run sampleOrigin (sampleSite der) words).stdout = text := by
  obtain ⟨hcode, hstdout⟩ := Prod.mk.inj h
  refine ⟨?_, hstdout⟩
  cases hresult : (run sampleOrigin (sampleSite der) words).result with
  | error crash =>
    rw [hresult] at hcode
    cases hcode
  | ok status =>
    rw [hresult] at hcode
    exact ⟨status, rfl, Option.some.inj hcode⟩

/-- A run that shows the names of a certificate with one DNS name, and checks this name. -/
theorem printed_lines_foo_test :
    let _ : Limits := .usual
    ∃ der, X509.sampleFrame.encode? ["foo.test"] none [] = some der ∧
      let r := { sampleRequest [.given "foo.test"] with showNames := true }
      let lines := LineEnds.unicode.lines (run sampleOrigin (sampleSite der)
        ["--cert", "cert.der", "--show-names", "--host", "foo.test"]).stdout.toList
      ∃ s cert shown, ∃ ds : List Decision, Decides sampleOrigin (sampleSite der) r s cert shown ∧
        strays .unicode r cert.certificate = 0 ∧ lines.length = 3 ∧
        lines.countP saysOk = ds.countP Decision.isAuthorized := by
  intro _
  have hclosed : (X509.sampleFrame.encode? ["foo.test"] none []).map
      (printedWith · ["--cert", "cert.der", "--show-names", "--host", "foo.test"]) =
      some (some 0, "Subject alternative DNS names: foo.test\nCommon name: (none)\n" ++
        "OK      foo.test (matched SAN foo.test)\n") := by
    decide +kernel
  obtain ⟨der, hder, hprinted⟩ := Option.map_eq_some_iff.mp hclosed
  obtain ⟨⟨status, hresult, hcode⟩, hstdout⟩ := exists_status hprinted
  obtain ⟨s, cert, shown, ds, hdecides, -, -, hlength, hcount⟩ :=
    printed_lines .unicode sampleOrigin (sampleSite der) _
      { sampleRequest [.given "foo.test"] with showNames := true } status rfl rfl
      (by
        intro host hmem
        obtain rfl := Argument.given.inj (List.mem_singleton.mp hmem)
        exact clear_of_visible (by decide))
      hresult (Or.inl hcode)
  have hthree : (LineEnds.unicode.lines (run sampleOrigin (sampleSite der)
      ["--cert", "cert.der", "--show-names", "--host", "foo.test"]).stdout.toList).length = 3 := by
    rw [hstdout]
    decide
  have hnone : strays .unicode { sampleRequest [.given "foo.test"] with showNames := true }
      cert.certificate = 0 := by
    rw [hthree] at hlength
    have htwo : (if ({ sampleRequest [.given "foo.test"] with showNames := true } :
      Request).showNames then 2 else 0) = 2 := rfl
    have hone : ({ sampleRequest [.given "foo.test"] with showNames := true } :
      Request).hosts.length = 1 := rfl
    omega
  exact ⟨der, hder, s, cert, shown, ds, hdecides, hnone, hthree, hcount hnone⟩

/-- A common name with a line end in it, and behind this a line about a host. -/
def forgingName : String := "x\nOK      evil.test (matched SAN evil.test)"

/-- **A name is taken for the line of a host.**  No host is checked, but the names are shown; there
are three lines instead of two, and one of them says that a host is authorized. -/
theorem run_prints_forged_line :
    let _ : Limits := .usual
    ∃ der status, X509.sampleFrame.encode? [] (some forgingName) [] = some der ∧
      let outcome := run sampleOrigin (sampleSite der) ["--cert", "cert.der", "--show-names"]
      let lines := LineEnds.feeds.lines outcome.stdout.toList
      outcome.result = .ok status ∧ status.code = 0 ∧ lines.length = 3 ∧
        lines.countP saysOk = 1 := by
  intro _
  have hclosed : (X509.sampleFrame.encode? [] (some forgingName) []).map
      (printedWith · ["--cert", "cert.der", "--show-names"]) =
      some (some 0, "Subject alternative DNS names: (none)\nCommon name: " ++ forgingName ++
        "\n") := by
    decide +kernel
  obtain ⟨der, hder, hprinted⟩ := Option.map_eq_some_iff.mp hclosed
  obtain ⟨⟨status, hresult, hcode⟩, hstdout⟩ := exists_status hprinted
  refine ⟨der, status, hder, ?_⟩
  dsimp only
  rw [hstdout]
  exact ⟨hresult, hcode, by decide, by decide⟩

end CommandLine

end PeerName
