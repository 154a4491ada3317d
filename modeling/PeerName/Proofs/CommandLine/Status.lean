import Mathlib.Data.List.Forall2
import PeerName.Proofs.CommandLine.Arguments
import PeerName.Proofs.CommandLine.Start
import PeerName.Proofs.X509.Detection

/-!
# The status and the report of a run

A run that is asked about hosts either comes to decide about them or is refused.  It comes to
decide when there is something to decide, when it has started, when there is a certificate, and
when the names of this can be read, in case they are to be shown.  Then its status is that of the
decisions, and it prints one line for each of them, in the order in which the hosts were given.

* `Report.Prints` — the line that a report is printed as;
* `Shows` — the text about the names of a certificate;
* `Decides` — a run comes to its decisions;
* `Request.Decided`, `exists_decided` — the decisions about the hosts, and that there are some;
* `Decides.runRequest_eq` — the status and the text of such a run;
* `runRequest_of_not_decides` — every other run is refused, or ends by a fault;
* `run_law` — **the law of runs**;
* `run_reads_after_start` — what the path of the certificate led to before a run does not decide
  this.
-/

namespace PeerName

/-- The line that a report is printed as. -/
inductive Report.Prints : Report → String → Prop
  | altName (host name : Value) :
    Prints (.authorized host name "san")
      ("OK      " ++ host.plain ++ " (matched SAN " ++ name.plain ++ ")")
  | commonName (host name : Value) :
    Prints (.authorized host name "cn")
      ("OK      " ++ host.plain ++ " (matched CN " ++ name.plain ++ ")")
  | refused (host : Value) (message : String) :
    Prints (.refused host message) ("REJECT  " ++ host.plain ++ " (" ++ message ++ ")")

/-- The report of a decision is printed as the line of the decision. -/
theorem Decision.report_prints (d : Decision) : d.report.Prints d.line := by
  have hline (first : String) (source : NameSource) (word : String)
      (hword : " (matched " ++ Unicode.upper source.tag ++ " " = word) (name : Value) :
      first ++ " (matched " ++ Unicode.upper source.tag ++ " " ++ name.plain ++ ")" =
        first ++ word ++ name.plain ++ ")" := by
    rw [← hword]
    simp only [String.append_assoc]
  obtain ⟨host, verdict⟩ := d
  cases verdict with
  | authorized name source =>
    rw [Decision.line]
    cases source with
    | altName =>
      dsimp only
      rw [hline _ .altName " (matched SAN " (by decide +kernel)]
      exact .altName host name
    | commonName =>
      dsimp only
      rw [hline _ .commonName " (matched CN " (by decide +kernel)]
      exact .commonName host name
  | refused reason => exact .refused host (reason.message host)

namespace CommandLine

open Journal (Origin)

/-- The text about the names of a certificate, if it is asked for and they can be read. -/
inductive Shows (r : Request) (cert : Certificate) : String → Prop
  | nothing (hshow : r.showNames = false) : Shows r cert ""
  | names {names : Names} (hshow : r.showNames = true) (hnames : cert.names.outcome = .ok names) :
    Shows r cert (namesText names)

/-- A run comes to its decisions: under these settings, with this certificate, and after this text
about its names. -/
inductive Decides [Limits] (o : Nat → Origin) (site : Site) (r : Request) :
    Settings → X509.Certificate → String → Prop
  | intro {path shown : String} {s : Settings} {ready : Site} {cert : X509.Certificate}
      (hcert : r.cert = some path) (hasked : r.hosts ≠ [] ∨ r.showNames = true)
      (hstarts : Starts o site r s ready)
      (hfile : X509.Certificate.ofFile ready.folder path = .ok cert)
      (hshown : Shows r cert.certificate shown) : Decides o site r s cert shown

/-- There is a decision about each host of a request. -/
def Request.Decided [Limits] (r : Request) (policy : Policy) (cert : Certificate)
    (ds : List Decision) : Prop :=
  Checker.Settles policy (some cert) (r.hosts.map (·.value)) ds

/-- A run is refused, or ends by a fault. -/
def Outcome.Fails (outcome : Outcome) : Prop :=
  outcome.result = .ok .misuse ∨ ∃ crash, outcome.result = .error crash

variable {o : Nat → Origin} {site : Site} {r : Request} {s : Settings} {cert : X509.Certificate}
  {shown : String}

/-! ### Ends of a run -/

theorem refuse_fails (site : Site) (text : String) : (refuse site text).Fails := Or.inl rfl

theorem faulty_fails (site : Site) (crash : Crash) (reported : Bool) :
    (faulty site crash reported).Fails := by
  cases reported with
  | true => exact refuse_fails site _
  | false => exact Or.inr ⟨crash, rfl⟩

/-- The status of decisions. -/
theorem decisionsStatus_code (ds : List Decision) :
    (decisionsStatus ds).code = 0 ∧ (∀ d ∈ ds, d.isAuthorized = true) ∨
      (decisionsStatus ds).code = 1 ∧ ¬∀ d ∈ ds, d.isAuthorized = true := by
  rw [decisionsStatus, ← List.all_eq_true]
  cases ds.all (·.isAuthorized) with
  | true => exact Or.inl ⟨rfl, rfl⟩
  | false => exact Or.inr ⟨rfl, Bool.false_ne_true⟩

/-! ### Runs that decide -/

theorem filter_cert {path : String} (hcert : r.cert = some path) (hpath : path ≠ "") :
    r.cert.filter (· != "") = some path := by
  rw [hcert, Option.filter_some, if_pos (bne_iff_ne.mpr hpath)]

/-- The empty path leads to no certificate. -/
theorem ofFile_empty (folder : Storage.Folder) :
    X509.Certificate.ofFile folder "" = .error (.missing "") :=
  rfl

/-- A file with nothing but blanks holds no certificate. -/
theorem ofFile_of_blank {folder : Storage.Folder} {path : String} {place : Storage.Place}
    {bytes : List UInt8} (hfind : folder.find path = .ok (place, .file bytes))
    (hblank : bytes.all X509.isBlankByte = true) :
    X509.Certificate.ofFile folder path = .error (.empty path) := by
  rw [X509.ofFile_of_find hfind, if_pos hblank]

section Limits

variable [Limits]

/-- A host on the command line can be written out. -/
theorem hindrance?_argument (host : Argument String) (desk : Desk) :
    desk.hindrance? [host.value] = none := by
  cases host with
  | given text => exact (Desk.hindrance?_text desk text []).trans desk.hindrance?_nil
  | nothing =>
    rw [Desk.hindrance?_eq_none_iff]
    have hroom := Limits.ample desk
    refine ⟨?_, List.forall_mem_nil _⟩
    show max (1 + 0) 0 ≤ _
    omega

/-- **There is a decision about each host** on the command line, whatever is in the certificate. -/
theorem exists_decided (r : Request) (policy : Policy) (cert : X509.Certificate) :
    ∃ ds, r.Decided policy cert.certificate ds := by
  apply Checker.exists_settles policy (some cert.certificate)
  · intro host hhost desk
    obtain ⟨argument, -, rfl⟩ := List.mem_map.mp hhost
    exact hindrance?_argument argument desk
  · intro c hc
    obtain rfl := Option.some.inj hc
    exact cert.faultsWritable

theorem runCheck_eq {checker : Checker} {policy : Policy} (hpolicy : checker.policy = some policy)
    {certificate : Certificate} {ds : List Decision} (hds : r.Decided policy certificate ds)
    (site : Site) (shown : String) :
    (runCheck o checker site certificate r.hosts shown).result = .ok (decisionsStatus ds) ∧
      (runCheck o checker site certificate r.hosts shown).stdout = shown ++ decisionsText ds := by
  rw [runCheck, check_eq o policy (some certificate) hpolicy site hds]
  exact ⟨rfl, rfl⟩

theorem Shows.runCertificate_eq {certificate : Certificate} (h : Shows r certificate shown)
    {checker : Checker} {policy : Policy} (hpolicy : checker.policy = some policy)
    {ds : List Decision} (hds : r.Decided policy certificate ds) (site : Site) :
    (runCertificate o checker site certificate r).result = .ok (decisionsStatus ds) ∧
      (runCertificate o checker site certificate r).stdout = shown ++ decisionsText ds := by
  rw [runCertificate]
  cases h with
  | nothing hshow =>
    rw [if_neg (Bool.not_eq_true _ ▸ hshow)]
    exact runCheck_eq hpolicy hds _ _
  | names hshow hnames =>
    rw [if_pos hshow]
    dsimp only
    rw [hnames]
    exact runCheck_eq hpolicy hds _ _

/-- A run with a certificate and something to decide goes on to start. -/
theorem runRequest_of_asked {path : String} (hwrite : r.writeDefault.filter (· != "") = none)
    (hcert : r.cert = some path) (hpath : path ≠ "")
    (hasked : r.hosts ≠ [] ∨ r.showNames = true) :
    runRequest o site r =
      match r.checker.start o site r.overrides with
      | (_, ready, .error cause) => faulty ready (.start cause) (startReported cause)
      | (checker, ready, .ok _) =>
        match X509.Certificate.ofFile ready.folder path with
        | .error cause => faulty ready (.file cause) (fileReported cause)
        | .ok cert => runCertificate o checker ready cert.certificate r := by
  have hnotIdle : ¬(r.hosts.isEmpty && !r.showNames) = true := by
    intro hidle
    rw [Bool.and_eq_true, Bool.not_eq_true', List.isEmpty_iff] at hidle
    rcases hasked with hhosts | hshow
    · exact hhosts hidle.1
    · rw [hshow] at hidle
      cases hidle.2
  rw [runRequest, hwrite, filter_cert hcert hpath]
  dsimp only
  rw [if_neg hnotIdle, Request.checker]
  rcases Checker.start o { settingsPath := r.config } site r.overrides with ⟨checker, ready, made⟩
  cases made <;> rfl

/-- A run that comes to its decisions reports the names and checks the hosts. -/
theorem Decides.exists_ready (h : Decides o site r s cert shown)
    (hwrite : r.writeDefault = none) :
    ∃ (checker : Checker) (ready : Site), checker.policy = some s.policy ∧
      Starts o site r s ready ∧
      runRequest o site r = runCertificate o checker ready cert.certificate r ∧
      Shows r cert.certificate shown := by
  cases h with
  | @intro path _ _ ready _ hcert hasked hstarts hfile hshown =>
    have hpath : path ≠ "" := by
      rintro rfl
      rw [ofFile_empty] at hfile
      cases hfile
    refine ⟨{ settingsPath := r.config, settings := some s, service := some s,
              policy := some s.policy }, ready, rfl, hstarts, ?_, hshown⟩
    have hnone : r.writeDefault.filter (· != "") = none := by rw [hwrite, Option.filter_none]
    rw [runRequest_of_asked hnone hcert hpath hasked, hstarts.start_eq]
    dsimp only
    rw [hfile]

/-- **The status and the text of a run that decides.** -/
theorem Decides.runRequest_eq (h : Decides o site r s cert shown) (hwrite : r.writeDefault = none) :
    ∃ ds, r.Decided s.policy cert.certificate ds ∧
      (runRequest o site r).result = .ok (decisionsStatus ds) ∧
      (runRequest o site r).stdout = shown ++ decisionsText ds := by
  obtain ⟨checker, ready, hpolicy, -, hrun, hshown⟩ := h.exists_ready hwrite
  obtain ⟨ds, hds⟩ := exists_decided r s.policy cert
  rw [hrun]
  exact ⟨ds, hds, hshown.runCertificate_eq hpolicy hds ready⟩

/-! ### Runs that do not -/

theorem runCertificate_fails {certificate : Certificate}
    (h : ¬∃ shown, Shows r certificate shown) (checker : Checker) (site : Site) :
    (runCertificate o checker site certificate r).Fails := by
  rw [runCertificate]
  by_cases hshow : r.showNames = true
  · rw [if_pos hshow]
    dsimp only
    cases hnames : certificate.names.outcome with
    | ok names => exact absurd ⟨_, .names hshow hnames⟩ h
    | error cause =>
      dsimp only
      split
      · exact refuse_fails _ _
      · exact Or.inr ⟨_, rfl⟩
  · exact absurd ⟨_, .nothing (Bool.not_eq_true _ ▸ hshow)⟩ h

/-- **Every other run fails.** -/
theorem runRequest_of_not_decides (h : ¬∃ s cert shown, Decides o site r s cert shown)
    (hwrite : r.writeDefault = none) : (runRequest o site r).Fails := by
  by_cases hpath : ∃ path, r.cert = some path ∧ path ≠ ""
  · obtain ⟨path, hcert, hpath⟩ := hpath
    by_cases hasked : r.hosts ≠ [] ∨ r.showNames = true
    · rw [runRequest_of_asked (congrArg (Option.filter (· != "")) hwrite) hcert hpath hasked]
      cases hstart : r.checker.start o site r.overrides with
      | mk checker rest =>
        obtain ⟨ready, started⟩ := rest
        cases started with
        | error cause => exact faulty_fails _ _ _
        | ok _ =>
          obtain ⟨s, other, hstarts⟩ := exists_starts (by rw [hstart])
          obtain rfl : other = ready := by
            rw [hstarts.start_eq] at hstart
            exact (Prod.mk.inj (Prod.mk.inj hstart).2).1
          dsimp only
          cases hfile : X509.Certificate.ofFile other.folder path with
          | error cause => exact faulty_fails _ _ _
          | ok cert =>
            refine runCertificate_fails ?_ checker other
            rintro ⟨shown, hshown⟩
            exact h ⟨s, cert, shown, .intro hcert hasked hstarts hfile hshown⟩
    · rw [not_or, not_not, Bool.not_eq_true] at hasked
      rw [runRequest, hwrite, filter_cert hcert hpath]
      dsimp only [Option.filter_none]
      rw [hasked.1, hasked.2]
      exact refuse_fails _ _
  · have hnone : r.cert.filter (· != "") = none := by
      rw [Option.filter_eq_none_iff]
      intro path hcert hne
      exact hpath ⟨path, hcert, bne_iff_ne.mp hne⟩
    rw [runRequest, hwrite, hnone]
    exact refuse_fails _ _

/-! ### The law -/

/-- The lines of decisions, one for each host in order. -/
theorem Request.Decided.print {policy : Policy} {certificate : Certificate} {ds : List Decision}
    (h : r.Decided policy certificate ds) :
    List.Forall₂ (fun host line => ∃ report,
      (verify policy (some certificate) host.value).report = .ok report ∧ report.Prints line)
      r.hosts (ds.map Decision.line) := by
  rw [List.forall₂_map_right_iff]
  refine (List.forall₂_map_left_iff.mp h).imp fun host d hd => ⟨d.report, ?_, d.report_prints⟩
  exact (Deliberation.report_eq_ok_iff _ _).mpr ⟨d, hd.1, rfl⟩

/-- All decisions authorize exactly if every host is authorized. -/
theorem Request.Decided.forall_iff {policy : Policy} {certificate : Certificate}
    {ds : List Decision} (h : r.Decided policy certificate ds) :
    (∀ d ∈ ds, d.isAuthorized = true) ↔
      ∀ host ∈ r.hosts, (verify policy (some certificate) host.value).authorized = .ok true := by
  rw [Decided, Checker.Settles, List.forall₂_map_left_iff] at h
  generalize r.hosts = hosts at h ⊢
  induction h with
  | nil => exact iff_of_true (List.forall_mem_nil _) (List.forall_mem_nil _)
  | @cons host d hosts ds hd _ ih =>
    have hfirst : d.isAuthorized = true ↔
        (verify policy (some certificate) host.value).authorized = .ok true := by
      rw [Deliberation.authorized, hd.1, Except.map, Except.ok.injEq]
      exact Iff.rfl
    rw [List.forall_mem_cons, List.forall_mem_cons, hfirst, ih]

/-- **The law of runs.**  Take a command line that asks for decisions.  Its request is read off the
options in it, in order.

A run of it that ends with a status ends with 0 or 1 exactly when it comes to its decisions, and
with 2 otherwise.  A run that comes to its decisions does end with a status.  This is 0 exactly
when every host is authorized, under the settings of the run, by the certificate in the file; and
after the text about the names the run prints one line for each host, in the order in which they
were given, which says what the decision about this host is.

The file is read when the journal has been set up.  As long as the certificate file is there before
the run and is not the log file, and the record of the start does not fill the log file, it holds
what it held before the run. -/
theorem run_law (o : Nat → Origin) (site : Site) (words : List String) (r : Request)
    (hwords : Request.ofWords words = .ok (.request r)) (hwrite : r.writeDefault = none) :
    let outcome := run o site words
    let decides := ∃ s cert shown, Decides o site r s cert shown
    (∃ ts others, tokens words = .ok (ts, others) ∧ ({} : Request).Follows (uses ts) r) ∧
    (∀ status, outcome.result = .ok status →
      ((status.code = 0 ∨ status.code = 1) ↔ decides) ∧ (¬decides → status.code = 2)) ∧
    (∀ s cert shown, Decides o site r s cert shown →
      let heard (host : Argument String) := verify s.policy (some cert.certificate) host.value
      ∃ status lines, outcome.result = .ok status ∧
        (status.code = 0 ↔ ∀ host ∈ r.hosts, (heard host).authorized = .ok true) ∧
        List.Forall₂ (fun host line => ∃ report, (heard host).report = .ok report ∧
          report.Prints line) r.hosts lines ∧
        outcome.stdout = shown ++ String.join (lines.map (· ++ "\n"))) ∧
    (site.journal.handlers = [] → ∀ s ready path place entry, Starts o site r s ready →
      r.cert = some path → site.folder.find path = .ok (place, entry) →
      (s.logFile = "" ∨ place ≠ .ofPath s.logFile) → ¬MayFill o site s →
      X509.Certificate.ofFile ready.folder path = X509.Certificate.ofFile site.folder path) := by
  intro outcome decides
  have houtcome : outcome = runRequest o site r := by
    simp only [outcome, run, hwords]
  refine ⟨Request.ofWords_follows hwords, ?_, ?_, ?_⟩
  · intro status hstatus
    rw [houtcome] at hstatus
    by_cases h : decides
    · obtain ⟨s, cert, shown, hdecides⟩ := h
      obtain ⟨ds, -, hresult, -⟩ := hdecides.runRequest_eq hwrite
      rw [hresult] at hstatus
      obtain rfl := Except.ok.inj hstatus
      refine ⟨iff_of_true ?_ ⟨s, cert, shown, hdecides⟩, fun hnot => ?_⟩
      · exact (decisionsStatus_code _).imp And.left And.left
      · exact absurd ⟨s, cert, shown, hdecides⟩ hnot
    · rcases runRequest_of_not_decides h hwrite with hmisuse | ⟨crash, hcrash⟩
      · rw [hmisuse] at hstatus
        obtain rfl := Except.ok.inj hstatus
        exact ⟨iff_of_false (by decide) h, fun _ => rfl⟩
      · rw [hcrash] at hstatus
        cases hstatus
  · intro s cert shown hdecides heard
    obtain ⟨ds, hds, hresult, hstdout⟩ := hdecides.runRequest_eq hwrite
    refine ⟨_, _, houtcome ▸ hresult, ?_, hds.print, ?_⟩
    · rw [← show _ ↔ ∀ host ∈ r.hosts, (heard host).authorized = .ok true from hds.forall_iff]
      rcases decisionsStatus_code ds with ⟨hcode, hyes⟩ | ⟨hcode, hno⟩
      · exact iff_of_true hcode hyes
      · refine iff_of_false ?_ hno
        rw [hcode]
        decide
    · rw [houtcome, hstdout, decisionsText, List.map_map]
      rfl
  · intro hsilent s ready path place entry hstarts _ hfind hplace hstays
    exact hstarts.ofFile_eq hsilent hstays hfind hplace

end Limits

/-- Where the records of a sample run come from. -/
def sampleOrigin (_ : Nat) : Origin where
  clock := ""
  timestamp := ""
  unit := .null
  function := .null
  line := .null
  thread := .null
  process := .null

/-- A site with one file, which holds a certificate. -/
def sampleSite (der : List UInt8) : Site where
  folder := ({ home := "/" } : Storage.Folder).give "cert.der" (.file der)

/-- The request for decisions about hosts with the certificate in this file. -/
def sampleRequest (hosts : List (Argument String)) : Request where
  cert := some "cert.der"
  hosts := hosts

/-- There is a certificate for one DNS name, and a file with its bytes holds it. -/
theorem sample_certificate :
    ∃ der cert, X509.sampleFrame.encode? ["foo.test"] none [] = some der ∧
      X509.Certificate.ListsNames cert [.text "foo.test"] ∧
      ∀ {folder : Storage.Folder} {path : String} {place : Storage.Place},
        folder.find path = .ok (place, .file der) →
          X509.Certificate.ofFile folder path = .ok cert := by
  have hclosed : (X509.sampleFrame.encode? ["foo.test"] none []).map
      (X509.occursIn X509.pemMarker) = some false := by
    decide +kernel
  obtain ⟨der, hder, hmarker⟩ := Option.map_eq_some_iff.mp hclosed
  obtain ⟨cert, hdecode, hlists⟩ := X509.listsNames_of_encode? hder
  refine ⟨der, cert, hder, hlists, fun hfind => ?_⟩
  rw [X509.ofFile_of_decode hdecode hfind, X509.Certificate.load, hmarker,
    if_neg Bool.false_ne_true, hdecode]
  rfl

/-- Runs with a certificate for one DNS name: the status is 0 for this name, 1 as soon as another
host is among those asked for, and 2 if nothing is asked for. -/
theorem run_sampleFrame :
    let _ : Limits := .usual
    ∃ der, X509.sampleFrame.encode? ["foo.test"] none [] = some der ∧
      let result (words : List String) :=
        (run sampleOrigin (sampleSite der) ("--cert" :: "cert.der" :: words)).result
      (∃ status, result ["--host", "foo.test"] = .ok status ∧ status.code = 0) ∧
      (∃ status, result ["--host", "foo.test", "--host", "bar.test"] = .ok status ∧
        status.code = 1) ∧
      (∃ status, result [] = .ok status ∧ status.code = 2) := by
  intro _
  obtain ⟨der, cert, hder, hlists, hholds⟩ := sample_certificate
  have hfile : X509.Certificate.ofFile (sampleSite der).folder "cert.der" = .ok cert :=
    hholds rfl
  have hlaw (hosts : List (Argument String)) (words : List String)
      (hwords : Request.ofWords words = .ok (.request (sampleRequest hosts))) :=
    run_law sampleOrigin (sampleSite der) words (sampleRequest hosts) hwords rfl
  have hdecides (hosts : List (Argument String)) (hne : hosts ≠ []) :
      Decides sampleOrigin (sampleSite der) (sampleRequest hosts) {} cert "" := by
    have hstarts : Starts sampleOrigin (sampleSite der) (sampleRequest hosts)
        ((sampleRequest hosts).settings {}) ((sampleSite der).setUpConsole {}) :=
      .intro (.default (Or.inl rfl)) (Option.some_ne_none _).symm rfl
    exact .intro rfl (Or.inl hne) hstarts hfile (.nothing rfl)
  refine ⟨der, hder, ?_, ?_, ?_⟩
  · have hrun := hlaw [.given "foo.test"] ["--cert", "cert.der", "--host", "foo.test"] rfl
    obtain ⟨status, -, hresult, hcode, -⟩ := hrun.2.2.1 _ _ _ (hdecides _ (List.cons_ne_nil _ _))
    refine ⟨status, hresult, hcode.mpr ?_⟩
    intro host hmem
    obtain rfl := List.mem_singleton.mp hmem
    have hcovers : Host.coversValue true (.text "foo.test") (.text "foo.test") = true := by
      decide +kernel
    exact X509.Certificate.authorized_iff.mpr
      ⟨_, hlists, Or.inl ⟨_, List.mem_singleton_self _, hcovers⟩⟩
  · have hrun := hlaw [.given "foo.test", .given "bar.test"]
      ["--cert", "cert.der", "--host", "foo.test", "--host", "bar.test"] rfl
    have hdecided := hdecides [.given "foo.test", .given "bar.test"] (List.cons_ne_nil _ _)
    obtain ⟨status, -, hresult, hcode, -⟩ := hrun.2.2.1 _ _ _ hdecided
    have hended := (hrun.2.1 status hresult).1.mpr ⟨_, _, _, hdecided⟩
    refine ⟨status, hresult, hended.resolve_left ?_⟩
    intro hzero
    -- the other host would have to be authorized as well
    have hother := hcode.mp hzero (.given "bar.test")
      (List.mem_cons_of_mem _ (List.mem_singleton_self _))
    obtain ⟨names, hnames, hcovers⟩ := X509.Certificate.authorized_iff.mp hother
    obtain rfl := hlists.unique hnames
    rcases hcovers with ⟨name, hmem, hname⟩ | ⟨hnil, -⟩
    · obtain rfl := List.mem_singleton.mp hmem
      exact absurd hname (by decide +kernel)
    · cases hnil
  · have hrun := hlaw [] ["--cert", "cert.der"] rfl
    refine ⟨.misuse, rfl, (hrun.2.1 .misuse rfl).2 ?_⟩
    rintro ⟨s, cert, shown, ⟨-, hasked, -, -, -⟩⟩
    rcases hasked with hhosts | hshow
    · exact hhosts rfl
    · cases hshow

/-! ### When the certificate file is read -/

/-- A site with a full log file, and with a certificate where this is set aside. -/
def fullSite (log der : List UInt8) : Site where
  folder := ((({ home := "/" } : Storage.Folder).give "peercert.conf" (.file (Utf8.encode
      "[app]\nlog_level = DEBUG\nlog_file_path = app.log\n"))).give
    "app.log" (.file log)).give "app.log.1" (.file der)

/-- The settings there. -/
def fullSettings : Settings := { logLevel := .debug, logFile := "app.log" }

theorem contentAt_fullSite (log der : List UInt8) :
    (fullSite log der).folder.contentAt (.ofPath fullSettings.logFile) = log :=
  rfl

/-- A full log file, which holds blanks. -/
def fullLog : List UInt8 := List.replicate Storage.fullSize 0x20

/-- The request for a decision with the certificate there. -/
def fullRequest : Request where
  cert := some "app.log.1"
  config := some "peercert.conf"
  hosts := [.given "foo.test"]

/-- A site with a certificate, and with settings that ask for a log file in a directory that is not
there. -/
def pendingSite (der : List UInt8) : Site where
  folder := (({ home := "/" } : Storage.Folder).give "peercert.conf" (.file (Utf8.encode
      "[app]\nlog_file_path = logs/app.log\n"))).give "cert.der" (.file der)

/-- The path where a log file is set aside leads to what is there. -/
theorem find_older {folder : Storage.Folder} {entry : Storage.Entry}
    (h : folder.entryAt ((Storage.Place.ofPath fullSettings.logFile).older 1) = some entry) :
    folder.find "app.log.1" = .ok ((Storage.Place.ofPath fullSettings.logFile).older 1, entry) := by
  have hpath : Storage.pathFault? "app.log.1" = none := by decide +kernel
  have hplace : folder.place "app.log.1".toList =
      .ok ((Storage.Place.ofPath fullSettings.logFile).older 1) := rfl
  rw [Storage.Folder.find, hpath]
  dsimp only
  rw [hplace]
  dsimp only
  rw [h]

/-- The start of a run sets the full log file aside, in the place of the certificate. -/
theorem starts_fullSite {der : List UInt8}
    (hder : X509.sampleFrame.encode? ["foo.test"] none [] = some der) :
    let _ : Limits := .usual
    ∃ ready, Starts sampleOrigin (fullSite fullLog der) fullRequest fullSettings ready ∧
      ready.folder.find "app.log.1" =
        .ok ((Storage.Place.ofPath fullSettings.logFile).older 1, .file fullLog) := by
  obtain rfl : (X509.sampleFrame.encode? ["foo.test"] none []).getD [] = der := by rw [hder]; rfl
  intro _
  let site := fullSite fullLog ((X509.sampleFrame.encode? ["foo.test"] none []).getD [])
  -- nothing that is decided here looks at what the log file holds
  have hload : (Settings.load site.folder "peercert.conf").outcome.toOption =
      some fullSettings := by decide +kernel
  have hlog : (Settings.load site.folder "peercert.conf").log = [] := by decide +kernel
  have hopened : ((site.setUpConsole fullSettings).setUpFile fullSettings).2.isOk = true := by
    decide +kernel
  have hmoved : (Storage.Folder.setAside (.ofPath fullSettings.logFile) Storage.keptFiles
      ((site.setUpConsole fullSettings).setUpFile fullSettings).1.folder).2.isOk = true := by
    decide +kernel
  have haside : site.SetsAside (sampleOrigin 0) fullSettings := by
    refine ⟨by decide, by decide, _, rfl, ?_⟩
    have hfull : (site.folder.contentAt (.ofPath fullSettings.logFile)).length =
        Storage.fullSize := by
      rw [contentAt_fullSite, fullLog, List.length_replicate]
    exact Nat.le_trans (Nat.le_of_eq hfull.symm) (Nat.le_add_right _ _)
  obtain ⟨hsetUp, holder⟩ :=
    Site.setUp_older haside (Prod.ext rfl (eq_ok_of_isOk hopened)) (eq_ok_of_isOk hmoved)
  have hloads : Loads sampleOrigin site fullRequest fullSettings
      (site.emitAll sampleOrigin (Settings.load site.folder "peercert.conf").log) :=
    .file rfl (by decide) (eq_ok_of_toOption hload)
  have hnone : site.emitAll sampleOrigin [] = site := rfl
  rw [hlog, hnone] at hloads
  have hsettings : fullRequest.settings fullSettings = fullSettings := rfl
  have hstarts := Starts.intro hloads (by decide) (hsettings.symm ▸ hsetUp)
  rw [hsettings] at hstarts
  rw [contentAt_fullSite] at holder
  exact ⟨_, hstarts, find_older holder⟩

/-- **What the path of the certificate leads to before a run does not decide this.**  There is a
certificate that authorizes the host, but the start of the run puts the full log file in its place,
and the run is refused.  And there is nothing as long as a directory is missing, but the start makes
this directory, and the run is a success. -/
theorem run_reads_after_start :
    let _ : Limits := .usual
    ∃ der, X509.sampleFrame.encode? ["foo.test"] none [] = some der ∧
      let result (site : Site) (path : String) := (run sampleOrigin site
        ["--cert", path, "--config", "peercert.conf", "--host", "foo.test"]).result
      ((∃ cert, X509.Certificate.ofFile (fullSite fullLog der).folder "app.log.1" = .ok cert ∧
          (verify fullSettings.policy (some cert.certificate) (.text "foo.test")).authorized =
            .ok true) ∧
        (∃ ready, Starts sampleOrigin (fullSite fullLog der) fullRequest fullSettings ready) ∧
        result (fullSite fullLog der) "app.log.1" = .ok .misuse) ∧
      (pendingSite der).folder.holds "logs/../cert.der" = false ∧
        result (pendingSite der) "logs/../cert.der" = .ok .success := by
  intro _
  obtain ⟨der, cert, hder, hlists, hholds⟩ := sample_certificate
  refine ⟨der, hder, ⟨⟨cert, hholds rfl, ?_⟩, ?_, ?_⟩, rfl, ?_⟩
  · have hcovers : Host.coversValue true (.text "foo.test") (.text "foo.test") = true := by
      decide +kernel
    exact X509.Certificate.authorized_iff.mpr
      ⟨_, hlists, Or.inl ⟨_, List.mem_singleton_self _, hcovers⟩⟩
  · obtain ⟨ready, hstarts, -⟩ := starts_fullSite hder
    exact ⟨ready, hstarts⟩
  · obtain ⟨ready, hstarts, hfind⟩ := starts_fullSite hder
    have hblank : fullLog.all X509.isBlankByte = true := List.all_replicate.trans rfl
    show (runRequest sampleOrigin (fullSite fullLog der) fullRequest).result = _
    rw [runRequest_of_asked rfl rfl (by decide) (Or.inl (List.cons_ne_nil _ _)),
      hstarts.start_eq]
    dsimp only
    rw [ofFile_of_blank hfind hblank]
    rfl
  · have hclosed : (X509.sampleFrame.encode? ["foo.test"] none []).map (fun der =>
        (run sampleOrigin (pendingSite der) ["--cert", "logs/../cert.der", "--config",
          "peercert.conf", "--host", "foo.test"]).result.toOption) = some (some .success) := by
      decide +kernel
    rw [hder, Option.map_some, Option.some_inj] at hclosed
    exact eq_ok_of_toOption hclosed

end CommandLine

end PeerName
