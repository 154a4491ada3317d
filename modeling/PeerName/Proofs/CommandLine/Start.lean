import PeerName.CommandLine.Run
import PeerName.Proofs.Checker.Trail
import PeerName.Proofs.Journal.Footprint
import PeerName.Proofs.Settings.Change

/-!
# The start of a run

Before a run decides anything it reads its settings, applies what the command line says and sets
up the journal.  The command line can only turn the fallback and the wildcards off; what it does
not mention is as in the settings file, or as it is by default.

* `Request.settings` — the settings of a run;
* `Loads`, `Starts` — a run has read its settings, and has started;
* `override_overrides` — what the command line says comes to these settings;
* `Starts.start_eq`, `exists_starts` — **a run starts in this way and no other**;
* `Starts.ofFile_eq` — the start leaves the certificate file as it is.
-/

namespace PeerName.CommandLine

open Journal (Origin)

/-- The settings of a run, given those of its settings file. -/
def Request.settings (r : Request) (base : Settings) : Settings :=
  { base with
    commonNameFallback := base.commonNameFallback && !r.noFallback
    wildcards := base.wildcards && !r.noWildcards
    logLevel := (r.logLevel.bind Argument.given?).getD base.logLevel }

/-- The settings file of a request has been read, and what was logged meanwhile is written.  Where
no settings file is named the settings are the default ones. -/
inductive Loads [Limits] (o : Nat → Origin) (site : Site) (r : Request) : Settings → Site → Prop
  | default (hconfig : r.config = none ∨ r.config = some "") : Loads o site r {} site
  | file {path : String} {base : Settings} (hconfig : r.config = some path) (hpath : path ≠ "")
      (hload : (Settings.load site.folder path).outcome = .ok base) :
      Loads o site r base (site.emitAll o (Settings.load site.folder path).log)

/-- A run has read its settings and set up its journal.  A level that has been dropped from the
command line is no level. -/
inductive Starts [Limits] (o : Nat → Origin) (site : Site) (r : Request) : Settings → Site → Prop
  | intro {base : Settings} {loaded ready : Site} (hloads : Loads o site r base loaded)
      (hlevel : r.logLevel ≠ some .nothing)
      (hsetUp : loaded.setUp (o loaded.count) (r.settings base) = (ready, .ok ())) :
      Starts o site r (r.settings base) ready

variable {o : Nat → Origin} {site loaded ready : Site} {r : Request} {base s : Settings}

/-! ### Overrides -/

/-- The overrides that are not null. -/
def Request.given (r : Request) : List (String × Value) :=
  (if r.noFallback then [("legacy_common_name_fallback", .bool false)] else [])
    ++ (if r.noWildcards then [("allow_wildcards", .bool false)] else [])
    ++ (r.logLevel.map fun l => ("log_level", (l.map LogLevel.name).value)).toList

theorem override_eq_change (r : Request) (base : Settings) :
    Checker.override base r.overrides = (base.change r.given).mapError .invalid := by
  rw [Checker.override, Request.overrides, Request.given]
  cases r.noFallback <;> cases r.noWildcards <;> rcases r.logLevel with _ | _ | _ <;> rfl

theorem given_known (r : Request) (s : Settings) :
    ∀ g ∈ r.given, g.1 ∈ s.fields.map Prod.fst := by
  intro g hg
  have hname : g.1 = "legacy_common_name_fallback" ∨ g.1 = "allow_wildcards" ∨
      g.1 = "log_level" := by
    rw [Request.given, List.mem_append, List.mem_append] at hg
    rcases hg with (hg | hg) | hg
    · split at hg
      · exact Or.inl (List.mem_singleton.mp hg ▸ rfl)
      · cases hg
    · split at hg
      · exact Or.inr (Or.inl (List.mem_singleton.mp hg ▸ rfl))
      · cases hg
    · rw [Option.mem_toList, Option.map_eq_some_iff] at hg
      obtain ⟨l, -, rfl⟩ := hg
      exact Or.inr (Or.inr rfl)
  rcases hname with hname | hname | hname <;> simp [hname, Settings.fields]

theorem lookup_given (r : Request) :
    r.given.lookup "legacy_common_name_fallback" =
        (if r.noFallback then some (.bool false) else none) ∧
      r.given.lookup "allow_wildcards" = (if r.noWildcards then some (.bool false) else none) ∧
      r.given.lookup "json_logging" = none ∧ r.given.lookup "log_file_path" = none ∧
      r.given.lookup "log_level" = r.logLevel.map fun l => (l.map LogLevel.name).value := by
  rw [Request.given]
  cases r.noFallback <;> cases r.noWildcards <;> rcases r.logLevel with _ | l <;>
    simp [List.lookup_cons]

/-- A switch that the command line turns off is off, and any other is as it was. -/
theorem boolean_switchedOff (field : String) (off old : Bool) :
    Settings.boolean field ((if off then some (.bool false) else none).getD (.bool old)) =
      .ok (old && !off) := by
  cases off <;> cases old <;> rfl

theorem level_overridden (given : Option (Argument LogLevel)) (old : LogLevel) :
    Settings.level ((given.map fun l => (l.map LogLevel.name).value).getD (.text old.name)) =
      if given = some .nothing then .error .unknownLevel
      else .ok ((given.bind Argument.given?).getD old) := by
  have hname (l : LogLevel) : Settings.level (.text l.name) = .ok l := by
    rw [Settings.level, LogLevel.ofName?_name]
  rcases given with _ | l | _
  · exact hname old
  · exact hname l
  · rfl

/-- What the command line says about the settings comes to the settings of the run.  It is refused
only if the level has been dropped. -/
theorem override_overrides (r : Request) (base : Settings) :
    Checker.override base r.overrides =
      if r.logLevel = some .nothing then .error (.invalid .unknownLevel)
      else .ok (r.settings base) := by
  obtain ⟨hfallback, hwildcards, hjson, hfile, hlevel⟩ := lookup_given r
  rw [override_eq_change, Settings.change_eq base r.given (given_known r base)]
  simp only [hfallback, hwildcards, hjson, hfile, hlevel, boolean_switchedOff, level_overridden]
  by_cases hdropped : r.logLevel = some .nothing
  · rw [if_pos hdropped, if_pos hdropped]
    rfl
  · rw [if_neg hdropped, if_neg hdropped]
    rfl

/-! ### The start -/

/-- The checker of a run before it has started. -/
def Request.checker (r : Request) : Checker := { settingsPath := r.config }

theorem overrides_not_reserved (r : Request) : r.overrides.any (·.1 == "self") = false := by
  rw [Request.overrides]
  rfl

section Limits

variable [Limits]

theorem baseSettings_of_none (hconfig : r.config = none ∨ r.config = some "")
    (folder : Storage.Folder) : r.checker.baseSettings folder = (.ok {}, []) := by
  rw [Checker.baseSettings, Request.checker]
  rcases hconfig with hconfig | hconfig
  · rw [hconfig]
  · rw [hconfig]
    rfl

theorem baseSettings_of_path {path : String} (hconfig : r.config = some path) (hpath : path ≠ "")
    (folder : Storage.Folder) :
    r.checker.baseSettings folder =
      ((Settings.load folder path).outcome.mapError .load, (Settings.load folder path).log) := by
  rw [Checker.baseSettings, Request.checker, hconfig]
  split
  next hnone => cases hnone
  next hempty => exact absurd (Option.some.inj hempty) hpath
  next other _ hother => rw [Option.some.inj hother]

theorem Loads.baseSettings_eq (h : Loads o site r base loaded) :
    ∃ log, r.checker.baseSettings site.folder = (.ok base, log) ∧
      loaded = site.emitAll o log := by
  cases h with
  | default hconfig => exact ⟨[], baseSettings_of_none hconfig site.folder, rfl⟩
  | file hconfig hpath hload =>
    rw [baseSettings_of_path hconfig hpath, hload]
    exact ⟨_, rfl, rfl⟩

theorem loads_of_baseSettings {log : List Journal.Record}
    (h : r.checker.baseSettings site.folder = (.ok base, log)) :
    Loads o site r base (site.emitAll o log) := by
  by_cases hconfig : r.config = none ∨ r.config = some ""
  · rw [baseSettings_of_none hconfig] at h
    obtain ⟨hbase, rfl⟩ := Prod.mk.inj h
    obtain rfl := Except.ok.inj hbase
    exact .default hconfig
  · rw [not_or] at hconfig
    obtain ⟨path, hpath⟩ := Option.ne_none_iff_exists'.mp hconfig.1
    have hne : path ≠ "" := by
      rintro rfl
      exact hconfig.2 hpath
    rw [baseSettings_of_path hpath hne] at h
    obtain ⟨hbase, rfl⟩ := Prod.mk.inj h
    cases hload : (Settings.load site.folder path).outcome with
    | error cause =>
      rw [hload] at hbase
      cases hbase
    | ok found =>
      rw [hload] at hbase
      obtain rfl := Except.ok.inj hbase
      exact .file hpath hne hload

/-- **A run that starts** has a checker with the policy of its settings. -/
theorem Starts.start_eq (h : Starts o site r s ready) :
    r.checker.start o site r.overrides =
      ({ settingsPath := r.config, settings := some s, service := some s,
          policy := some s.policy }, ready, .ok ()) := by
  obtain ⟨hloads, hlevel, hsetUp⟩ := h
  obtain ⟨log, hbase, rfl⟩ := hloads.baseSettings_eq
  rw [Checker.start, overrides_not_reserved, if_neg Bool.false_ne_true, hbase]
  dsimp only [Except.bind]
  rw [override_overrides, if_neg hlevel]
  dsimp only
  rw [hsetUp]
  rfl

/-- **No run starts in another way.** -/
theorem exists_starts (h : (r.checker.start o site r.overrides).2.2 = .ok ()) :
    ∃ s ready, Starts o site r s ready := by
  rcases hstart : r.checker.start o site r.overrides with ⟨checker, ready, made⟩
  rw [hstart] at h
  obtain rfl : made = .ok () := h
  obtain ⟨base, s, hbase, hoverride, -, -, hsetUp⟩ := Checker.start_eq_ok hstart
  have hloads := loads_of_baseSettings (o := o) (Prod.ext hbase rfl)
  rw [override_overrides] at hoverride
  by_cases hlevel : r.logLevel = some .nothing
  · rw [if_pos hlevel] at hoverride
    cases hoverride
  · rw [if_neg hlevel] at hoverride
    obtain rfl := Except.ok.inj hoverride
    exact ⟨_, ready, .intro hloads hlevel hsetUp⟩

/-! ### The certificate file -/

theorem Loads.folder_eq (h : Loads o site r base loaded) (hsilent : site.journal.handlers = []) :
    loaded.folder = site.folder := by
  cases h with
  | default _ => rfl
  | file _ _ _ => exact Site.emitAll_folder_of_silent hsilent _

/-- The record of the setting up fills the log file, whatever its number is. -/
def MayFill (o : Nat → Origin) (site : Site) (s : Settings) : Prop := ∃ n, site.SetsAside (o n) s

/-- **The start changes nothing but the log file**, unless its record fills this. -/
theorem Starts.grows (h : Starts o site r s ready) (hsilent : site.journal.handlers = [])
    (hstays : ¬MayFill o site s) :
    Storage.Folder.Grows (.ofPath s.logFile) site.folder ready.folder := by
  obtain @⟨base, loaded, ready, hloads, -, hsetUp⟩ := h
  have hfolder := hloads.folder_eq hsilent
  have haside : ¬loaded.SetsAside (o loaded.count) (r.settings base) := by
    rw [Site.SetsAside, hfolder]
    exact fun haside => hstays ⟨loaded.count, haside⟩
  rw [← hfolder]
  exact Site.setUp_grows hsetUp haside

/-- **The start leaves the certificate file as it is**, unless this is the log file, or the record
of the start fills the log file. -/
theorem Starts.ofFile_eq (h : Starts o site r s ready) (hsilent : site.journal.handlers = [])
    (hstays : ¬MayFill o site s)
    {path : String} {place : Storage.Place} {entry : Storage.Entry}
    (hfind : site.folder.find path = .ok (place, entry))
    (hplace : s.logFile = "" ∨ place ≠ .ofPath s.logFile) :
    X509.Certificate.ofFile ready.folder path = X509.Certificate.ofFile site.folder path := by
  have hentry : entry = .directory ∨ place ≠ .ofPath s.logFile := by
    rcases hplace with hempty | hne
    · -- without a log file the exception is the current directory, which is no file
      by_cases hcurrent : place = .ofPath s.logFile
      · refine Or.inl (Option.some.inj ?_)
        rw [← Storage.Folder.entryAt_of_find hfind, hcurrent, hempty]
        exact Storage.Folder.entryAt_of_isGiven (by decide) _
      · exact Or.inr hcurrent
    · exact Or.inr hne
  have hfound := (h.grows hsilent hstays).find_eq hfind hentry
  rw [X509.Certificate.ofFile, X509.Certificate.ofFile, Storage.Folder.holds,
    Storage.Folder.holds, Storage.Folder.read, Storage.Folder.read, hfind, hfound]

end Limits

end PeerName.CommandLine
