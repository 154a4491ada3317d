import PeerName.Proofs.Checker.Trail
import PeerName.Proofs.Journal.Succession

/-!
# A checker that starts again and again

A checker can start any number of times, and decide about hosts in between.  A start that fails
before it comes to the journal leaves the checker and the journal as they were.  One that fails
because the log file cannot be set up does not: the new settings are there already, and the journal
has been taken down to the error stream, while the policy is still that of the last start that
succeeded.

* `Site.emit_journal`, `Site.setUp_journal` — what becomes of the journal;
* `Checker.Ending`, `Checker.start_ending` — **the three ways in which a start ends**;
* `Checker.Scene`, `Checker.Call` — a checker at its site, and what can happen to it;
* `Checker.Standing` — how a checker stands after the last start that has left a trace;
* `Checker.standing_after` — one call, and any number of calls;
* `Checker.start_after` — **what a start changes, after any calls**.
-/

namespace PeerName

open Journal (Level Handler Origin Record)

/-! ### The journal -/

namespace Site

variable {site next : Site} {s : Settings}

theorem setUpFile_journal {fault : Storage.Fault} (h : site.setUpFile s = (next, .error fault)) :
    next.journal = site.journal := by
  rw [setUpFile] at h
  cases hensured : site.folder.ensureParent s.logFile with
  | mk folder made =>
    rw [hensured] at h
    dsimp only at h
    cases made with
    | error cause => exact (Prod.mk.inj h).1 ▸ rfl
    | ok _ =>
      dsimp only at h
      split at h
      · exact (Prod.mk.inj h).1 ▸ rfl
      split at h
      · exact (Prod.mk.inj h).1 ▸ rfl
      · cases h

/-- Setting the journal up can fail only at the log file, and what was set up before has been taken
down by then. -/
theorem setUp_journal [Limits] {o : Origin} {fault : Storage.Fault}
    (h : site.setUp o s = (next, .error fault)) :
    s.logFile ≠ "" ∧ next.journal = consoleOf s := by
  rw [setUp] at h
  by_cases hfile : s.logFile = ""
  · rw [if_pos hfile] at h
    cases h
  · rw [if_neg hfile] at h
    refine ⟨hfile, ?_⟩
    cases hopened : (site.setUpConsole s).setUpFile s with
    | mk opened made =>
      rw [hopened] at h
      cases made with
      | ok _ => cases h
      | error cause =>
        obtain ⟨rfl, -⟩ := Prod.mk.inj h
        exact setUpFile_journal hopened

end Site

namespace Checker

/-! ### One start -/

section Ending

variable [Limits] {o : Nat → Origin} {c : Checker} {site : Site} {overrides : List (String × Value)}

/-- The settings that a start asks for: those of its file with the overrides. -/
def asked (c : Checker) (folder : Storage.Folder) (overrides : List (String × Value)) :
    Except StartFault Settings :=
  (c.baseSettings folder).1.bind (override · overrides)

variable (c site overrides) in
/-- How a start ends. -/
inductive Ending : Checker → Site → Except StartFault Unit → Prop
  /-- It is refused before anything has changed. -/
  | refused {next : Site} {cause : StartFault} (hcause : ∀ fault, cause ≠ .storage fault)
      (hjournal : next.journal = site.journal) : Ending c next (.error cause)
  /-- The log file cannot be set up. -/
  | stranded {next : Site} {s : Settings} {fault : Storage.Fault}
      (hasked : c.asked site.folder overrides = .ok s) (hfile : s.logFile ≠ "")
      (hjournal : next.journal = Site.consoleOf s) :
      Ending { c with settings := some s } next (.error (.storage fault))
  /-- It succeeds. -/
  | ready {next : Site} {s : Settings} (hasked : c.asked site.folder overrides = .ok s)
      (hjournal : next.journal = Site.journalOf s) :
      Ending { c with settings := some s, service := some s, policy := some s.policy } next (.ok ())

/-- Neither the settings file nor the overrides are refused for the log file. -/
theorem asked_ne_storage (folder : Storage.Folder) (fault : Storage.Fault) :
    c.asked folder overrides ≠ .error (.storage fault) := by
  intro h
  rw [asked] at h
  cases hbase : (c.baseSettings folder).1 with
  | error cause =>
    rw [hbase] at h
    obtain rfl : cause = .storage fault := Except.error.inj h
    rw [baseSettings] at hbase
    split at hbase
    · cases hbase
    · cases hbase
    next path _ _ =>
      dsimp only at hbase
      generalize Settings.load folder path = loaded at hbase
      obtain ⟨log, outcome⟩ := loaded
      cases outcome with
      | ok s => cases hbase
      | error fault => cases hbase
  | ok base =>
    rw [hbase] at h
    change override base overrides = _ at h
    rw [override] at h
    generalize base.change _ = changed at h
    cases changed with
    | ok s => cases h
    | error fault => cases h

/-- **A start ends in one of three ways.** -/
theorem start_ending :
    Ending c site overrides (c.start o site overrides).1 (c.start o site overrides).2.1
      (c.start o site overrides).2.2 := by
  rw [start]
  split
  · refine .refused (fun fault h => ?_) rfl
    cases h
  -- what is asked for is decided before the journal is touched
  have hasked : c.asked site.folder overrides =
      (c.baseSettings site.folder).1.bind (override · overrides) := rfl
  have hnever (fault : Storage.Fault) : c.asked site.folder overrides ≠ .error (.storage fault) :=
    asked_ne_storage site.folder fault
  generalize c.baseSettings site.folder = loaded at hasked ⊢
  obtain ⟨base, log⟩ := loaded
  dsimp only at hasked ⊢
  rw [← hasked]
  cases hsettings : c.asked site.folder overrides with
  | error cause =>
    refine .refused (fun fault h => hnever fault ?_) (Site.emitAll_journal log)
    rw [hsettings, h]
  | ok s =>
    dsimp only
    cases hsetUp : (site.emitAll o log).setUp (o (site.emitAll o log).count) s with
    | mk next made =>
      cases made with
      | error fault =>
        obtain ⟨hfile, hjournal⟩ := Site.setUp_journal hsetUp
        exact .stranded hsettings hfile hjournal
      | ok _ => exact .ready hsettings (Site.journal_of_setUp hsetUp)

end Ending

/-! ### Any number of calls -/

/-- A checker at its site. -/
structure Scene where
  checker : Checker
  site : Site

/-- What can happen to a checker. -/
inductive Call where
  /-- It starts, with overrides. -/
  | start (o : Nat → Origin) (overrides : List (String × Value))
  /-- It decides about hosts. -/
  | check (o : Nat → Origin) (cert : Option Certificate) (hosts : List Value)
  /-- It is given another settings file, or none. -/
  | locate (path : Option String)
  /-- The folder changes in any way. -/
  | disturb (folder : Storage.Folder)

section Limits

variable [Limits]

/-- The scene after a call. -/
def Call.after (scene : Scene) : Call → Scene
  | start o overrides =>
    let (checker, site, _) := scene.checker.start o scene.site overrides
    ⟨checker, site⟩
  | check o cert hosts => { scene with site := (scene.checker.check o scene.site cert hosts).1 }
  | locate path => { scene with checker := { scene.checker with settingsPath := path } }
  | disturb folder => { scene with site := { scene.site with folder } }

/-- What becomes of a call that is a start. -/
def Call.outcome? (scene : Scene) : Call → Option (Except StartFault Unit)
  | start o overrides => some (scene.checker.start o scene.site overrides).2.2
  | check _ _ _ => none
  | locate _ => none
  | disturb _ => none

/-- The scene after calls in order. -/
def after (scene : Scene) (calls : List Call) : Scene := calls.foldl Call.after scene

/-- What becomes of the starts among calls in order. -/
def outcomes (scene : Scene) : List Call → List (Except StartFault Unit)
  | [] => []
  | call :: rest => (call.outcome? scene).toList ++ outcomes (call.after scene) rest

end Limits

/-- Whether a start has come to the journal. -/
def leavesTrace : Except StartFault Unit → Bool
  | .ok _ => true
  | .error (.storage _) => true
  | .error _ => false

/-- The last start that has come to the journal. -/
def lastTrace (results : List (Except StartFault Unit)) : Option (Except StartFault Unit) :=
  (results.filter leavesTrace).getLast?

theorem leavesTrace_of_ne {cause : StartFault} (hcause : ∀ fault, cause ≠ .storage fault) :
    leavesTrace (.error cause) = false := by
  cases cause with
  | storage fault => exact absurd rfl (hcause fault)
  | reserved => rfl
  | load _ => rfl
  | invalid _ => rfl

variable {journal : Journal} {last : Option (Except StartFault Unit)} {scene : Scene}

/-- How a checker stands after the last start that has come to the journal, where at first the
journal is the given one. -/
inductive Standing (journal : Journal) (scene : Scene) : Option (Except StartFault Unit) → Prop
  /-- Nothing has happened to the checker and the journal. -/
  | fresh (hsettings : scene.checker.settings = none) (hservice : scene.checker.service = none)
      (hpolicy : scene.checker.policy = none) (hjournal : scene.site.journal = journal) :
      Standing journal scene none
  /-- Settings, policy and journal are of a piece. -/
  | ready {s : Settings} (hsettings : scene.checker.settings = some s)
      (hservice : scene.checker.service = some s) (hpolicy : scene.checker.policy = some s.policy)
      (hjournal : scene.site.journal = Site.journalOf s) : Standing journal scene (some (.ok ()))
  /-- There are settings that nothing else follows. -/
  | stranded {s : Settings} {fault : Storage.Fault} (hsettings : scene.checker.settings = some s)
      (hpolicy : scene.checker.policy = scene.checker.service.map Settings.policy)
      (hfile : s.logFile ≠ "") (hjournal : scene.site.journal = Site.consoleOf s) :
      Standing journal scene (some (.error (.storage fault)))

/-- The policy is always that of the settings by which the journal was last set up. -/
theorem Standing.policy_eq (h : Standing journal scene last) :
    scene.checker.policy = scene.checker.service.map Settings.policy := by
  cases h with
  | fresh _ hservice hpolicy _ => rw [hservice, hpolicy, Option.map_none]
  | ready _ hservice hpolicy _ => rw [hservice, hpolicy, Option.map_some]
  | stranded _ hpolicy _ _ => exact hpolicy

/-- A checker stands as before if nothing has happened to it and the journal. -/
theorem Standing.of_eq {next : Scene} (h : Standing journal scene last)
    (hsettings : next.checker.settings = scene.checker.settings)
    (hservice : next.checker.service = scene.checker.service)
    (hpolicy : next.checker.policy = scene.checker.policy)
    (hjournal : next.site.journal = scene.site.journal) : Standing journal next last := by
  cases h with
  | fresh h₁ h₂ h₃ h₄ =>
    exact .fresh (hsettings.trans h₁) (hservice.trans h₂) (hpolicy.trans h₃) (hjournal.trans h₄)
  | ready h₁ h₂ h₃ h₄ =>
    exact .ready (hsettings.trans h₁) (hservice.trans h₂) (hpolicy.trans h₃) (hjournal.trans h₄)
  | stranded h₁ h₂ h₃ h₄ =>
    refine .stranded (hsettings.trans h₁) ?_ h₃ (hjournal.trans h₄)
    rw [hpolicy, hservice, h₂]

section Limits

variable [Limits]

theorem checkHost_journal (o : Nat → Origin) (policy : Policy) (cert : Option Certificate)
    (site : Site) (host : Value) :
    (checkHost o policy cert site host).1.journal = site.journal := by
  rw [checkHost]
  split
  · exact Site.emitAll_journal _
  split
  · exact Site.emitAll_journal _
  · rw [Site.emit_journal, Site.emitAll_journal]

theorem checkHosts_journal (o : Nat → Origin) (policy : Policy) (cert : Option Certificate)
    (site : Site) (hosts : List Value) :
    (checkHosts o policy cert site hosts).1.journal = site.journal := by
  induction hosts generalizing site with
  | nil => rfl
  | cons host rest ih =>
    have hfirst := checkHost_journal o policy cert site host
    rw [checkHosts]
    cases hchecked : checkHost o policy cert site host with
    | mk after made =>
      rw [hchecked] at hfirst
      cases made with
      | error cause => exact hfirst
      | ok d => exact (ih after).trans hfirst

/-- Deciding about hosts leaves the journal as it is. -/
theorem check_journal (o : Nat → Origin) (c : Checker) (site : Site) (cert : Option Certificate)
    (hosts : List Value) : (c.check o site cert hosts).1.journal = site.journal := by
  unfold check
  split
  · exact checkHosts_journal o _ cert site _
  · rfl
  · rfl

/-- What one start leaves. -/
theorem standing_start (h : Standing journal scene last) (o : Nat → Origin)
    (overrides : List (String × Value)) :
    Standing journal ((Call.start o overrides).after scene)
      ((lastTrace [(scene.checker.start o scene.site overrides).2.2]).or last) := by
  have hending : Ending scene.checker scene.site overrides
      ((Call.start o overrides).after scene).checker ((Call.start o overrides).after scene).site
      (scene.checker.start o scene.site overrides).2.2 := start_ending
  have hpolicy := h.policy_eq
  generalize (Call.start o overrides).after scene = next at hending ⊢
  obtain ⟨checker, site⟩ := next
  generalize (scene.checker.start o scene.site overrides).2.2 = result at hending ⊢
  cases hending with
  | @refused _ cause hcause hjournal =>
    rw [lastTrace, List.filter_cons, leavesTrace_of_ne hcause, if_neg Bool.false_ne_true]
    exact h.of_eq rfl rfl rfl hjournal
  | stranded _ hfile hjournal => exact .stranded rfl hpolicy hfile hjournal
  | ready _ hjournal => exact .ready rfl rfl rfl hjournal

theorem service_start (o : Nat → Origin) (overrides : List (String × Value)) :
    ((Call.start o overrides).after scene).checker.service = none ↔
      scene.checker.service = none ∧
        .ok () ∉ [(scene.checker.start o scene.site overrides).2.2] := by
  have hending : Ending scene.checker scene.site overrides
      ((Call.start o overrides).after scene).checker ((Call.start o overrides).after scene).site
      (scene.checker.start o scene.site overrides).2.2 := start_ending
  rw [List.mem_singleton]
  generalize (Call.start o overrides).after scene = next at hending ⊢
  obtain ⟨checker, site⟩ := next
  generalize (scene.checker.start o scene.site overrides).2.2 = result at hending ⊢
  cases hending with
  | refused _ _ => simp
  | stranded _ _ _ => simp
  | ready _ _ => simp

/-- **One call.** -/
theorem standing_call (h : Standing journal scene last) (call : Call) :
    Standing journal (call.after scene)
      ((lastTrace (call.outcome? scene).toList).or last) := by
  cases call with
  | start o overrides => exact standing_start h o overrides
  | check o cert hosts => exact h.of_eq rfl rfl rfl (check_journal o _ _ cert hosts)
  | locate path => exact h.of_eq rfl rfl rfl rfl
  | disturb folder => exact h.of_eq rfl rfl rfl rfl

/-- **Any number of calls.** -/
theorem standing_after (h : Standing journal scene last) (calls : List Call) :
    Standing journal (after scene calls) ((lastTrace (outcomes scene calls)).or last) := by
  induction calls generalizing scene last with
  | nil => exact h
  | cons call rest ih =>
    have hrest := ih (standing_call h call)
    rwa [← Option.or_assoc, lastTrace, lastTrace, ← List.getLast?_append, ← List.filter_append]
      at hrest

/-- The journal has been set up before exactly if a start has succeeded. -/
theorem service_after (scene : Scene) (calls : List Call) :
    (after scene calls).checker.service = none ↔
      scene.checker.service = none ∧ .ok () ∉ outcomes scene calls := by
  induction calls generalizing scene with
  | nil => exact (and_iff_left List.not_mem_nil).symm
  | cons call rest ih =>
    have hcall : (call.after scene).checker.service = none ↔
        scene.checker.service = none ∧ .ok () ∉ (call.outcome? scene).toList := by
      cases call with
      | start o overrides => exact service_start o overrides
      | check o cert hosts => exact (and_iff_left List.not_mem_nil).symm
      | locate path => exact (and_iff_left List.not_mem_nil).symm
      | disturb folder => exact (and_iff_left List.not_mem_nil).symm
    have hrest := ih (call.after scene)
    rw [hcall, and_assoc, ← not_or, ← List.mem_append] at hrest
    exact hrest

/-- **What a start changes, after any calls.**  A new checker, with a settings file or without one,
goes through any calls, at any site and with any changes of the folder in between.  Settings, policy
and journal are of a piece if the last start that has come to the journal succeeded, and nothing has
happened to them if none has come to it; the policy is always that of the settings by which the
journal was last set up.

If a start now fails, then the policy, and the settings by which the journal was last set up, are
those from before.  Unless it fails at the log file, so are the settings and the journal.  If it
does, then the settings are those that it has asked for, and the journal is theirs without the log
file. -/
theorem start_after (site : Site) (path : Option String) (calls : List Call) :
    let scene := after ⟨{ settingsPath := path }, site⟩ calls
    let results := outcomes ⟨{ settingsPath := path }, site⟩ calls
    Standing site.journal scene (lastTrace results) ∧
      (scene.checker.service = none ↔ .ok () ∉ results) ∧
      scene.checker.policy = scene.checker.service.map Settings.policy ∧
      ∀ (o : Nat → Origin) (overrides : List (String × Value)) (cause : StartFault),
        (scene.checker.start o scene.site overrides).2.2 = .error cause →
        let next := (Call.start o overrides).after scene
        next.checker.settingsPath = scene.checker.settingsPath ∧
          next.checker.service = scene.checker.service ∧
          next.checker.policy = scene.checker.policy ∧
          ((∀ fault, cause ≠ .storage fault) →
            next.checker = scene.checker ∧ next.site.journal = scene.site.journal) ∧
          ∀ fault, cause = .storage fault →
            ∃ s, scene.checker.asked scene.site.folder overrides = .ok s ∧ s.logFile ≠ "" ∧
              next.checker = { scene.checker with settings := some s } ∧
              next.site.journal = Site.consoleOf s := by
  intro scene results
  have hfresh : Standing site.journal ⟨{ settingsPath := path }, site⟩ none :=
    .fresh rfl rfl rfl rfl
  have hstanding : Standing site.journal scene (lastTrace results) := by
    rw [← Option.or_none (o := lastTrace results)]
    exact standing_after hfresh calls
  have hservice : scene.checker.service = none ↔ .ok () ∉ results :=
    (service_after _ calls).trans (and_iff_right rfl)
  refine ⟨hstanding, hservice, hstanding.policy_eq, fun o overrides cause hcause => ?_⟩
  intro next
  have hending : Ending scene.checker scene.site overrides next.checker next.site
      (scene.checker.start o scene.site overrides).2.2 := start_ending
  rw [hcause] at hending
  generalize next.checker = checker at hending ⊢
  generalize next.site = after at hending ⊢
  cases hending with
  | refused hrefused hjournal =>
    exact ⟨rfl, rfl, rfl, fun _ => ⟨rfl, hjournal⟩, fun fault h => absurd h (hrefused fault)⟩
  | @stranded _ s fault hasked hfile hjournal =>
    refine ⟨rfl, rfl, rfl, fun h => absurd rfl (h fault), fun _ _ => ?_⟩
    exact ⟨s, hasked, hfile, rfl, hjournal⟩

end Limits

/-- A checker starts, and starts again with a directory for its log file.  This fails, but the
fallback is off in the settings and on in the policy, and the journal has another level. -/
theorem start_at_directory :
    let _ : Limits := .usual
    let site : Site :=
      { folder := ({ home := "/home" } : Storage.Folder).give "adir" .directory }
    let first := ({} : Checker).start (fun _ => turnOrigin) site []
    let second := first.1.start (fun _ => turnOrigin) first.2.1
      [("legacy_common_name_fallback", .bool false), ("log_level", .text "ERROR"),
        ("log_file_path", .text "adir")]
    (∃ fault, second.2.2 = .error (.storage fault)) ∧
      first.1.settings.map Settings.policy = first.1.policy ∧
      second.1.settings ≠ first.1.settings ∧
      second.1.settings.map Settings.policy ≠ second.1.policy ∧
      second.2.1.journal ≠ first.2.1.journal := by
  intro _ site first second
  have htrace : leavesTrace second.2.2 = true ∧ second.2.2.isOk = false := by decide +kernel
  refine ⟨?_, by decide +kernel, by decide +kernel, by decide +kernel, by decide +kernel⟩
  generalize second.2.2 = result at htrace ⊢
  obtain ⟨htrace, hfailed⟩ := htrace
  match result with
  | .error (.storage fault) => exact ⟨fault, rfl⟩

end Checker

end PeerName
