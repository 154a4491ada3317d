import PeerName.Proofs.CommandLine.Status
import PeerName.Proofs.Settings.Content

/-!
# The faults that end a run

A run can come upon a fault when it writes the default settings, when it starts, when it reads the
certificate file, and when it reads the names in it.  Most faults are complained about, and the
status is 2.  Some are not foreseen, and end the run without a status: a settings file with a
reference that leads nowhere, a log file in a place where no file can be, a certificate file that is
a directory, names that cannot be read for another reason than their form.

* `StartFails`, `Meets` — a run fails to start, and comes upon a fault;
* `Crash.Escapes` — the faults that are not complained about;
* `start_error_iff` — why a run does not start;
* `Meets.endsBy` — how a run ends that comes upon a fault;
* `exists_meets` — a run that ends without a status has come upon a fault;
* `run_crashes_iff` — **the runs that end without a status**;
* `run_directory` — a run with a directory in place of the certificate file.
-/

namespace PeerName.CommandLine

open Journal (Origin)

/-- A request asks something about the certificate file under a path. -/
structure Request.AsksAbout (r : Request) (path : String) : Prop where
  noDefault : r.writeDefault.filter (· != "") = none
  cert : r.cert = some path
  path_ne : path ≠ ""
  asked : r.hosts ≠ [] ∨ r.showNames = true

/-- A run fails to start. -/
inductive StartFails [Limits] (o : Nat → Origin) (site : Site) (r : Request) : StartFault → Prop
  /-- Its settings file cannot be loaded. -/
  | load {path : String} {cause : Settings.LoadFault} (hconfig : r.config = some path)
      (hpath : path ≠ "") (hload : (Settings.load site.folder path).outcome = .error cause) :
      StartFails o site r (.load cause)
  /-- The level has been dropped from the command line. -/
  | level {base : Settings} {loaded : Site} (hloads : Loads o site r base loaded)
      (hlevel : r.logLevel = some .nothing) : StartFails o site r (.invalid .unknownLevel)
  /-- The log file cannot be opened. -/
  | journal {base : Settings} {loaded ready : Site} {cause : Storage.Fault}
      (hloads : Loads o site r base loaded) (hlevel : r.logLevel ≠ some .nothing)
      (hsetUp : loaded.setUp (o loaded.count) (r.settings base) = (ready, .error cause)) :
      StartFails o site r (.storage cause)

/-- A run comes upon a fault. -/
inductive Meets [Limits] (o : Nat → Origin) (site : Site) (r : Request) : Crash → Prop
  /-- The default settings cannot be written. -/
  | writing {path : String} {cause : Storage.Fault} (hwrite : r.writeDefault = some path)
      (hpath : path ≠ "")
      (hwritten : (Settings.writeDefault site.folder path).outcome = .error cause) :
      Meets o site r (.storage cause)
  | starting {path : String} {cause : StartFault} (hasks : r.AsksAbout path)
      (hfails : StartFails o site r cause) : Meets o site r (.start cause)
  /-- The certificate file gives no certificate. -/
  | reading {path : String} {s : Settings} {ready : Site} {cause : X509.FileFault}
      (hasks : r.AsksAbout path) (hstarts : Starts o site r s ready)
      (hfile : X509.Certificate.ofFile ready.folder path = .error cause) :
      Meets o site r (.file cause)
  /-- The names are to be shown and cannot be read. -/
  | naming {path : String} {s : Settings} {ready : Site} {cert : X509.Certificate} {cause : Fault}
      (hasks : r.AsksAbout path) (hstarts : Starts o site r s ready)
      (hfile : X509.Certificate.ofFile ready.folder path = .ok cert)
      (hshow : r.showNames = true)
      (hnames : cert.certificate.names.outcome = .error cause) : Meets o site r (.names cause)

/-- The faults that are not complained about. -/
inductive Crash.Escapes : Crash → Prop
  | zeroCharacter : Escapes (.storage .zeroCharacter)
  | directories : Escapes (.storage .tooDeep)
  | reference (cause : Properties.Unresolved) : Escapes (.start (.load (.unresolved cause)))
  | logFile {cause : Storage.Cause} (hcause : cause ≠ .missing) (path : String) :
      Escapes (.start (.storage (.atPath cause path)))
  | logDirectories : Escapes (.start (.storage .tooDeep))
  | certificateDirectory (path : String) : Escapes (.file (.storage (.atPath .isDirectory path)))
  | version : Escapes (.file (.unreadable .unsupportedVersion))
  | names {cause : X509.Fault} (hcause : cause ≠ .malformed) :
      Escapes (.names (.unreadable cause))

/-- What is said about a fault. -/
def Crash.explanation : Crash → String
  | .names cause => complaint ("cannot read certificate names: " ++ cause.message)
  | crash => complaint crash.message

/-- A run ends because of a fault: without a status if the fault escapes, and otherwise with a
complaint about it. -/
structure Outcome.EndsBy (outcome : Outcome) (crash : Crash) : Prop where
  escaped : crash.Escapes → outcome.result = .error crash
  reported : ¬crash.Escapes → outcome.result = .ok .misuse ∧
    ∃ before, outcome.site.stderr = before ++ crash.explanation

variable {o : Nat → Origin} {site loaded ready : Site} {r : Request} {base s : Settings}
  {path : String}

/-! ### Complaints -/

theorem refuse_endsBy (site : Site) {crash : Crash} (hreported : ¬crash.Escapes) :
    (refuse site crash.explanation).EndsBy crash where
  escaped hescapes := absurd hescapes hreported
  reported _ := ⟨rfl, site.stderr, rfl⟩

theorem crash_endsBy (site : Site) {crash : Crash} (hescapes : crash.Escapes) :
    Outcome.EndsBy { site, result := .error crash } crash where
  escaped _ := rfl
  reported hreported := absurd hescapes hreported

/-- A fault is treated as it should be if those that do not escape are complained about. -/
theorem faulty_endsBy (site : Site) {crash : Crash} {reported : Bool}
    (htext : complaint crash.message = crash.explanation)
    (hreported : reported = true ↔ ¬crash.Escapes) : (faulty site crash reported).EndsBy crash := by
  rw [faulty]
  cases reported with
  | true =>
    rw [if_pos rfl, htext]
    exact refuse_endsBy site (hreported.mp rfl)
  | false =>
    rw [if_neg Bool.false_ne_true]
    exact crash_endsBy site (not_not.mp fun h => Bool.false_ne_true (hreported.mpr h))

/-! ### Writing the default settings -/

theorem runWriteDefault_endsBy [Limits] {cause : Storage.Fault}
    (hwritten : (Settings.writeDefault site.folder path).outcome = .error cause) :
    (runWriteDefault o site path).EndsBy (.storage cause) := by
  rw [runWriteDefault, hwritten]
  generalize Settings.writeDefault site.folder path = written
  generalize Site.emitAll o { site with folder := written.folder } written.log = after
  cases cause with
  | atPath cause path =>
    have hreported : ¬(Crash.storage (.atPath cause path)).Escapes := fun h => nomatch h
    exact refuse_endsBy after hreported
  | zeroCharacter => exact crash_endsBy _ .zeroCharacter
  | tooDeep => exact crash_endsBy _ .directories

theorem exists_of_runWriteDefault [Limits] {crash : Crash}
    (h : (runWriteDefault o site path).result = .error crash) :
    ∃ cause, (Settings.writeDefault site.folder path).outcome = .error cause ∧
      crash = .storage cause := by
  rw [runWriteDefault] at h
  cases hwritten : (Settings.writeDefault site.folder path).outcome with
  | ok _ =>
    rw [hwritten] at h
    cases h
  | error cause =>
    rw [hwritten] at h
    cases cause with
    | atPath cause path => cases h
    | zeroCharacter => exact ⟨_, rfl, (Except.error.inj h).symm⟩
    | tooDeep => exact ⟨_, rfl, (Except.error.inj h).symm⟩

/-! ### The start -/

theorem startFails_of_baseSettings [Limits] {cause : StartFault} {log : List Journal.Record}
    (h : r.checker.baseSettings site.folder = (.error cause, log)) :
    StartFails o site r cause := by
  cases hconfig : r.config with
  | none =>
    rw [baseSettings_of_none (Or.inl hconfig)] at h
    cases (Prod.mk.inj h).1
  | some path =>
    by_cases hpath : path = ""
    · rw [baseSettings_of_none (Or.inr (hpath ▸ hconfig))] at h
      cases (Prod.mk.inj h).1
    · rw [baseSettings_of_path hconfig hpath] at h
      cases hload : (Settings.load site.folder path).outcome with
      | ok base =>
        rw [hload] at h
        cases (Prod.mk.inj h).1
      | error fault =>
        rw [hload] at h
        obtain rfl := Except.error.inj (Prod.mk.inj h).1
        exact .load hconfig hpath hload

theorem startFails_of_start [Limits] {cause : StartFault}
    (h : (r.checker.start o site r.overrides).2.2 = .error cause) : StartFails o site r cause := by
  obtain ⟨hreserved, -⟩ | hload | ⟨base, hbase, hafter⟩ := Checker.start_eq_error h
  · rw [overrides_not_reserved] at hreserved
    cases hreserved
  · exact startFails_of_baseSettings (Prod.ext hload rfl)
  · have hloads := loads_of_baseSettings (o := o) (Prod.ext hbase rfl)
    rw [override_overrides] at hafter
    by_cases hlevel : r.logLevel = some .nothing
    · rw [if_pos hlevel] at hafter
      obtain hinvalid | ⟨s, ready, fault, hoverride, -⟩ := hafter
      · obtain rfl := Except.error.inj hinvalid
        exact .level hloads hlevel
      · cases hoverride
    · rw [if_neg hlevel] at hafter
      obtain hinvalid | ⟨s, ready, fault, hoverride, hsetUp, rfl⟩ := hafter
      · cases hinvalid
      · obtain rfl := Except.ok.inj hoverride
        exact .journal hloads hlevel hsetUp

theorem StartFails.start_eq [Limits] {cause : StartFault} (h : StartFails o site r cause) :
    (r.checker.start o site r.overrides).2.2 = .error cause := by
  rw [Checker.start, overrides_not_reserved, if_neg Bool.false_ne_true]
  cases h with
  | load hconfig hpath hload =>
    rw [baseSettings_of_path hconfig hpath, hload]
    rfl
  | level hloads hlevel =>
    obtain ⟨log, hbase, -⟩ := hloads.baseSettings_eq
    rw [hbase]
    dsimp only [Except.bind]
    rw [override_overrides, if_pos hlevel]
  | journal hloads hlevel hsetUp =>
    obtain ⟨log, hbase, rfl⟩ := hloads.baseSettings_eq
    rw [hbase]
    dsimp only [Except.bind]
    rw [override_overrides, if_neg hlevel]
    dsimp only
    rw [hsetUp]

/-- **Why a run does not start.** -/
theorem start_error_iff [Limits] {cause : StartFault} :
    (r.checker.start o site r.overrides).2.2 = .error cause ↔ StartFails o site r cause :=
  ⟨startFails_of_start, StartFails.start_eq⟩

/-- Of the faults at the start, those that escape are not complained about. -/
theorem StartFails.reported_iff [Limits] {cause : StartFault} (h : StartFails o site r cause) :
    startReported cause = true ↔ ¬(Crash.start cause).Escapes := by
  cases h with
  | @load path cause hconfig hpath hload =>
    cases cause with
    | unresolved cause =>
      exact iff_of_false Bool.false_ne_true (not_not_intro (.reference cause))
    | invalid cause =>
      obtain rfl := Settings.invalid_of_load hload
      exact iff_of_true rfl fun h => nomatch h
    | _ => exact iff_of_true rfl fun h => nomatch h
  | level _ _ => exact iff_of_true rfl fun h => nomatch h
  | @journal _ _ _ cause _ _ _ =>
    cases cause with
    | zeroCharacter => exact iff_of_true rfl fun h => nomatch h
    | tooDeep => exact iff_of_false Bool.false_ne_true (not_not_intro .logDirectories)
    | atPath cause path =>
      by_cases hcause : cause = .missing
      · subst hcause
        exact iff_of_true rfl fun h => by
          cases h with
          | logFile hcause _ => exact hcause rfl
      · refine iff_of_false ?_ (not_not_intro (.logFile hcause path))
        cases cause with
        | missing => exact absurd rfl hcause
        | _ => exact Bool.false_ne_true

/-! ### The certificate -/

/-- A certificate has the wrong form or a version that is not read. -/
theorem decode_error {bytes : List UInt8} {cause : X509.Fault}
    (h : X509.Certificate.decode bytes = .error cause) :
    cause = .malformed ∨ cause = .unsupportedVersion := by
  rw [X509.Certificate.decode] at h
  split at h
  · exact Or.inl (Except.error.inj h).symm
  · split at h
    · cases h
    · exact Or.inr (Except.error.inj h).symm

theorem load_error {bytes : List UInt8} {cause : X509.Fault}
    (h : X509.Certificate.load bytes = .error cause) :
    cause = .malformed ∨ cause = .unsupportedVersion := by
  rw [X509.Certificate.load] at h
  split at h
  · rw [X509.Certificate.ofPem] at h
    split at h
    · exact decode_error h
    · exact Or.inl (Except.error.inj h).symm
  · exact decode_error h

/-- What a path leads to is either read or a directory. -/
theorem read_of_holds {folder : Storage.Folder} {cause : Storage.Fault}
    (hholds : folder.holds path = true) (hread : folder.read path = .error cause) :
    cause = .atPath .isDirectory path := by
  rw [Storage.Folder.holds] at hholds
  rw [Storage.Folder.read] at hread
  cases hfind : folder.find path with
  | error fault =>
    rw [hfind] at hholds
    cases hholds
  | ok found =>
    rw [hfind] at hread
    obtain ⟨place, entry⟩ := found
    cases entry with
    | file content => cases hread
    | directory => exact (Except.error.inj hread).symm

/-- Of the faults of a certificate file, those that escape are not complained about. -/
theorem fileReported_iff {folder : Storage.Folder} {cause : X509.FileFault}
    (h : X509.Certificate.ofFile folder path = .error cause) :
    fileReported cause = true ↔ ¬(Crash.file cause).Escapes := by
  rw [X509.Certificate.ofFile] at h
  split at h
  · obtain rfl := Except.error.inj h
    refine iff_of_true rfl ?_
    intro hescapes
    cases hescapes
  next hholds =>
    rw [Bool.not_eq_true, Bool.not_eq_false'] at hholds
    split at h
    next fault hread =>
      obtain rfl := Except.error.inj h
      obtain rfl := read_of_holds hholds hread
      exact iff_of_false Bool.false_ne_true (not_not_intro (.certificateDirectory path))
    next bytes _ =>
      split at h
      · obtain rfl := Except.error.inj h
        refine iff_of_true rfl ?_
        intro hescapes
        cases hescapes
      · cases hload : X509.Certificate.load bytes with
        | ok cert =>
          rw [hload] at h
          cases h
        | error fault =>
          rw [hload] at h
          obtain rfl := Except.error.inj h
          rcases load_error hload with rfl | rfl
          · refine iff_of_true rfl ?_
            intro hescapes
            cases hescapes
          · exact iff_of_false Bool.false_ne_true (not_not_intro .version)

/-- Where the names cannot be read at once, one of the places cannot be read. -/
theorem exists_reading_of_names_error {cert : Certificate} {cause : Fault}
    (h : cert.names.outcome = .error cause) :
    ∃ accessor, (cert.reading accessor).outcome = .error cause := by
  rw [Certificate.names] at h
  cases halt : cert.altNames.outcome with
  | error fault =>
    rw [Certificate.look_bind_of_error .altNames halt] at h
    obtain rfl : fault = cause := Except.error.inj h
    exact ⟨.altNames, halt⟩
  | ok altNames =>
    rw [Certificate.look_bind_of_ok .altNames halt] at h
    cases hname : cert.commonName.outcome with
    | error fault =>
      rw [Certificate.look_bind_of_error .commonName hname] at h
      obtain rfl : fault = cause := Except.error.inj h
      exact ⟨.commonName, hname⟩
    | ok commonName =>
      rw [Certificate.look_bind_of_ok .commonName hname] at h
      cases hclaim : cert.hasAltNames.outcome with
      | error fault =>
        rw [Certificate.look_bind_of_error .hasAltNames hclaim] at h
        obtain rfl : fault = cause := Except.error.inj h
        exact ⟨.hasAltNames, hclaim⟩
      | ok hasAltNames =>
        rw [Certificate.look_bind_of_ok .hasAltNames hclaim] at h
        cases h

/-- What is wrong with the names of an encoded certificate is wrong with its encoding. -/
theorem names_error {cert : X509.Certificate} {cause : Fault}
    (h : cert.certificate.names.outcome = .error cause) : ∃ fault, cause = .unreadable fault := by
  obtain ⟨accessor, hread⟩ := exists_reading_of_names_error h
  exact X509.Certificate.exists_of_reading_error hread

theorem namesReported_iff (cause : X509.Fault) :
    namesReported (.unreadable cause) = true ↔ ¬(Crash.names (.unreadable cause)).Escapes := by
  rw [namesReported, encodingReported, decide_eq_true_iff]
  constructor
  · rintro rfl h
    cases h with
    | names hcause => exact hcause rfl
  · intro h
    by_contra hcause
    exact h (.names hcause)

/-! ### The run -/

/-- **A run that comes upon a fault ends because of it.** -/
theorem Meets.endsBy [Limits] {crash : Crash} (h : Meets o site r crash) :
    (runRequest o site r).EndsBy crash := by
  cases h with
  | @writing path cause hwrite hpath hwritten =>
    rw [runRequest, hwrite, Option.filter_some, if_pos (bne_iff_ne.mpr hpath)]
    exact runWriteDefault_endsBy hwritten
  | @starting path cause hasks hfails =>
    rw [runRequest_of_asked hasks.noDefault hasks.cert hasks.path_ne hasks.asked]
    have hstart : (r.checker.start o site r.overrides).2.2 = .error cause :=
      start_error_iff.mpr hfails
    rcases hmade : r.checker.start o site r.overrides with ⟨checker, ready, made⟩
    rw [hmade] at hstart
    obtain rfl : made = .error cause := hstart
    exact faulty_endsBy ready rfl hfails.reported_iff
  | reading hasks hstarts hfile =>
    rw [runRequest_of_asked hasks.noDefault hasks.cert hasks.path_ne hasks.asked,
      hstarts.start_eq]
    dsimp only
    rw [hfile]
    exact faulty_endsBy _ rfl (fileReported_iff hfile)
  | naming hasks hstarts hfile hshow hnames =>
    rw [runRequest_of_asked hasks.noDefault hasks.cert hasks.path_ne hasks.asked,
      hstarts.start_eq]
    dsimp only
    rw [hfile]
    dsimp only
    rw [runCertificate, if_pos hshow]
    dsimp only
    rw [hnames]
    obtain ⟨fault, rfl⟩ := names_error hnames
    dsimp only
    by_cases hreported : namesReported (.unreadable fault) = true
    · rw [if_pos hreported]
      exact refuse_endsBy _ ((namesReported_iff fault).mp hreported)
    · rw [if_neg hreported]
      exact crash_endsBy _ (not_not.mp fun h => hreported ((namesReported_iff fault).mpr h))

/-- A fault that may be complained about ends a run without a status only by itself. -/
theorem eq_of_faulty {crash fault : Crash} {reported : Bool}
    (h : (faulty site crash reported).result = .error fault) : fault = crash := by
  cases reported with
  | true => cases h
  | false => exact (Except.error.inj h).symm

/-- With a certificate only its names can end a run without a status: there is a decision about each
host. -/
theorem exists_of_runCertificate [Limits] {checker : Checker} {policy : Policy} {cert : Certificate}
    {crash : Crash} (hpolicy : checker.policy = some policy) {ds : List Decision}
    (hds : r.Decided policy cert ds)
    (h : (runCertificate o checker site cert r).result = .error crash) :
    ∃ cause, r.showNames = true ∧ cert.names.outcome = .error cause ∧ crash = .names cause := by
  rw [runCertificate] at h
  by_cases hshow : r.showNames = true
  · rw [if_pos hshow] at h
    dsimp only at h
    cases hnames : cert.names.outcome with
    | ok names =>
      rw [hnames] at h
      dsimp only at h
      rw [(runCheck_eq hpolicy hds _ _).1] at h
      cases h
    | error cause =>
      rw [hnames] at h
      dsimp only at h
      split at h
      · cases h
      · exact ⟨cause, hshow, rfl, (Except.error.inj h).symm⟩
  · rw [if_neg hshow, (runCheck_eq hpolicy hds _ _).1] at h
    cases h

/-- **A run that ends without a status has come upon a fault.** -/
theorem exists_meets [Limits] {crash : Crash} (h : (runRequest o site r).result = .error crash) :
    Meets o site r crash := by
  cases hwrite : r.writeDefault.filter (· != "") with
  | some path =>
    obtain ⟨hgiven, hpath⟩ := Option.filter_eq_some_iff.mp hwrite
    rw [runRequest, hwrite] at h
    obtain ⟨cause, hwritten, rfl⟩ := exists_of_runWriteDefault h
    exact .writing hgiven (bne_iff_ne.mp hpath) hwritten
  | none =>
    cases hcert : r.cert.filter (· != "") with
    | none =>
      rw [runRequest, hwrite, hcert] at h
      cases h
    | some path =>
      obtain ⟨hgiven, hpath⟩ := Option.filter_eq_some_iff.mp hcert
      by_cases hasked : r.hosts ≠ [] ∨ r.showNames = true
      · have hasks : r.AsksAbout path := ⟨hwrite, hgiven, bne_iff_ne.mp hpath, hasked⟩
        rw [runRequest_of_asked hwrite hgiven hasks.path_ne hasked] at h
        cases hstart : r.checker.start o site r.overrides with
        | mk checker rest =>
          obtain ⟨ready, started⟩ := rest
          rw [hstart] at h
          cases started with
          | error cause =>
            obtain rfl := eq_of_faulty h
            exact .starting hasks (start_error_iff.mp (by rw [hstart]))
          | ok _ =>
            obtain ⟨s, other, hstarts⟩ := exists_starts (by rw [hstart])
            rw [hstarts.start_eq] at hstart
            obtain ⟨rfl, hready⟩ := Prod.mk.inj hstart
            obtain rfl := (Prod.mk.inj hready).1
            dsimp only at h
            cases hfile : X509.Certificate.ofFile other.folder path with
            | error cause =>
              rw [hfile] at h
              obtain rfl := eq_of_faulty h
              exact .reading hasks hstarts hfile
            | ok cert =>
              rw [hfile] at h
              obtain ⟨ds, hds⟩ := exists_decided r s.policy cert
              obtain ⟨cause, hshow, hnames, rfl⟩ := exists_of_runCertificate rfl hds h
              exact .naming hasks hstarts hfile hshow hnames
      · rw [not_or, not_not, Bool.not_eq_true] at hasked
        rw [runRequest, hwrite, hcert, hasked.1, hasked.2] at h
        cases h

/-- **The runs that end without a status.**  A run ends with the status 0, 1 or 2, unless it comes
upon a fault that escapes; then it ends by this fault.  Where it comes upon another fault, its
status is 2, and the last thing on the error stream is a complaint about the fault. -/
theorem run_crashes_iff [Limits] (o : Nat → Origin) (site : Site) (words : List String) :
    let outcome := run o site words
    (∀ crash, outcome.result = .error crash ↔
      ∃ r, Request.ofWords words = .ok (.request r) ∧ Meets o site r crash ∧ crash.Escapes) ∧
    (∀ status, outcome.result = .ok status →
      status.code = 0 ∨ status.code = 1 ∨ status.code = 2) ∧
    (∀ r crash, Request.ofWords words = .ok (.request r) → Meets o site r crash →
      ¬crash.Escapes → ∃ status before, outcome.result = .ok status ∧ status.code = 2 ∧
        outcome.site.stderr = before ++ crash.explanation) := by
  intro outcome
  have houtcome {r : Request} (hwords : Request.ofWords words = .ok (.request r)) :
      outcome = runRequest o site r := by
    simp only [outcome, run, hwords]
  refine ⟨fun crash => ⟨fun hcrash => ?_, ?_⟩, ?_, ?_⟩
  · -- only a request can end without a status
    cases hwords : Request.ofWords words with
    | error mistake =>
      simp only [outcome, run, hwords] at hcrash
      cases hcrash
    | ok parsed =>
      cases parsed with
      | help =>
        simp only [outcome, run, hwords] at hcrash
        cases hcrash
      | request r =>
        rw [houtcome hwords] at hcrash
        have hmeets := exists_meets hcrash
        refine ⟨r, rfl, hmeets, ?_⟩
        by_contra hreported
        rw [(hmeets.endsBy.reported hreported).1] at hcrash
        cases hcrash
  · rintro ⟨r, hwords, hmeets, hescapes⟩
    rw [houtcome hwords]
    exact hmeets.endsBy.escaped hescapes
  · intro status _
    cases status with
    | success => exact Or.inl rfl
    | refused => exact Or.inr (Or.inl rfl)
    | misuse => exact Or.inr (Or.inr rfl)
  · intro r crash hwords hmeets hreported
    rw [houtcome hwords]
    obtain ⟨hresult, before, hstderr⟩ := hmeets.endsBy.reported hreported
    exact ⟨.misuse, before, hresult, rfl, hstderr⟩

/-- A run with a directory in place of the certificate file has no status. -/
theorem run_directory :
    let _ : Limits := .usual
    (run sampleOrigin { folder := ({ home := "/" } : Storage.Folder).give "adir" .directory }
        ["--cert", "adir", "--host", "foo.test"]).result =
      .error (.file (.storage (.atPath .isDirectory "adir"))) := by
  intro _
  let site : Site := { folder := ({ home := "/" } : Storage.Folder).give "adir" .directory }
  let r : Request := { cert := some "adir", hosts := [.given "foo.test"] }
  have hwords : Request.ofWords ["--cert", "adir", "--host", "foo.test"] = .ok (.request r) := rfl
  have hasks : r.AsksAbout "adir" := ⟨rfl, rfl, by decide, Or.inl (List.cons_ne_nil _ _)⟩
  have hstarts : Starts sampleOrigin site r (r.settings {}) (site.setUpConsole {}) :=
    .intro (.default (Or.inl rfl)) (Option.some_ne_none _).symm rfl
  have hfile : X509.Certificate.ofFile (site.setUpConsole {}).folder "adir" =
      .error (.storage (.atPath .isDirectory "adir")) := rfl
  rw [run, hwords]
  exact (Meets.reading hasks hstarts hfile).endsBy.escaped (.certificateDirectory "adir")

end PeerName.CommandLine
