import PeerName.Proofs.Settings.Override
import PeerName.Settings.Source

/-!
# Which settings are in force

A keeper is asked for its settings again and again, while files are loaded, written and changed by
others.  What it gives are the settings of the last file that could be loaded, as this file was at
the time.  A file that cannot be loaded, for whatever reason, and every later change of a file make
no difference.

* `Keeper.Scene`, `Keeper.Step` — a keeper with its folder, and what can happen to them;
* `Keeper.outcomes` — what loading the files comes to, each as it is at the time;
* `Keeper.current_perform`, `Keeper.current_after` — one step, and any number of them;
* `Keeper.new_eq_ok` — a keeper that has been made has done its first step;
* `Keeper.get_after` — **which settings are in force**.
-/

namespace PeerName.Settings.Keeper

/-- A keeper, and the folder that it reads from. -/
structure Scene where
  keeper : Keeper
  folder : Storage.Folder

/-- What can happen to a keeper and its folder. -/
inductive Step where
  /-- The file under a path is loaded. -/
  | load (path : String)
  /-- The keeper is asked for the settings in force. -/
  | get
  /-- A file with the default settings is written. -/
  | writeDefault (path : String)
  /-- Others change the folder in any way. -/
  | change (others : Storage.Folder → Storage.Folder)

/-- Others write a file; a file that cannot be written is left as it is. -/
def Step.write (path : String) (content : List UInt8) : Step :=
  change fun folder => (folder.write path content).toOption.getD folder

/-- The folder after a step, in which the keeper has no part. -/
def Step.folder (folder : Storage.Folder) : Step → Storage.Folder
  | load _ => folder
  | get => folder
  | writeDefault path => (Settings.writeDefault folder path).folder
  | change others => others folder

/-- The keeper after a step. -/
def Step.keeper [Limits] (scene : Scene) : Step → Keeper
  | load path => (scene.keeper.load scene.folder path).1
  | _ => scene.keeper

/-- The effect of a step. -/
def Step.perform [Limits] (scene : Scene) (step : Step) : Scene where
  keeper := step.keeper scene
  folder := step.folder scene.folder

/-- The effect of steps in order. -/
def after [Limits] (scene : Scene) (steps : List Step) : Scene := steps.foldl Step.perform scene

/-! ### The files at the time -/

/-- What a step that loads a file comes to. -/
def Step.outcome [Limits] (folder : Storage.Folder) : Step → Option (Except LoadFault Settings)
  | load path => some (Settings.load folder path).outcome
  | _ => none

/-- What the loads among steps come to, in order, each in the folder as it is at the time. -/
def outcomes [Limits] : Storage.Folder → List Step → List (Except LoadFault Settings)
  | _, [] => []
  | folder, step :: rest => (step.outcome folder).toList ++ outcomes (step.folder folder) rest

/-- The settings of the last file that could be loaded. -/
def lastLoaded (results : List (Except LoadFault Settings)) : Option Settings :=
  (results.filterMap Except.toOption).getLast?

/-- What a keeper that is made with a path, or without one, loads to begin with. -/
def opening : Option String → List Step
  | none => []
  | some "" => []
  | some path => [.load path]

/-! ### One step -/

theorem current_load [Limits] (keeper : Keeper) (folder : Storage.Folder) (path : String) :
    (keeper.load folder path).1.current =
      (Settings.load folder path).outcome.toOption.or keeper.current := by
  rw [load]
  generalize Settings.load folder path = loaded
  obtain ⟨log, outcome⟩ := loaded
  cases outcome with
  | ok s => rfl
  | error cause => rfl

/-- **One step** puts other settings in force only if it loads a file with success. -/
theorem current_perform [Limits] (scene : Scene) (step : Step) :
    (step.perform scene).keeper.current =
      (lastLoaded (step.outcome scene.folder).toList).or scene.keeper.current := by
  cases step with
  | load path =>
    have hlast (outcome : Except LoadFault Settings) :
        lastLoaded [outcome] = outcome.toOption := by
      cases outcome with
      | ok s => rfl
      | error cause => rfl
    rw [Step.outcome, Option.toList_some, hlast, ← current_load]
    rfl
  | get => rfl
  | writeDefault path => rfl
  | change others => rfl

/-! ### Any number of steps -/

theorem lastLoaded_append (first second : List (Except LoadFault Settings)) :
    lastLoaded (first ++ second) = (lastLoaded second).or (lastLoaded first) := by
  rw [lastLoaded, List.filterMap_append, List.getLast?_append]
  rfl

/-- **Any number of steps** leave the settings of the last file that could be loaded in force, and
if there is none those from before. -/
theorem current_after [Limits] (scene : Scene) (steps : List Step) :
    (after scene steps).keeper.current =
      (lastLoaded (outcomes scene.folder steps)).or scene.keeper.current := by
  induction steps generalizing scene with
  | nil => rfl
  | cons step rest ih =>
    have hrest := ih (step.perform scene)
    rw [current_perform, ← Option.or_assoc, ← lastLoaded_append] at hrest
    exact hrest

/-- What a new keeper has loaded to begin with. -/
theorem new_eq_ok [Limits] {folder : Storage.Folder} {path : Option String} {keeper : Keeper}
    (hnew : (new folder path).1 = .ok keeper) :
    after ⟨{}, folder⟩ (opening path) = ⟨keeper, folder⟩ := by
  rw [new.eq_def] at hnew
  split at hnew
  · obtain rfl := Except.ok.inj hnew
    rfl
  · obtain rfl := Except.ok.inj hnew
    rfl
  next path hpath =>
    have hopening : opening (some path) = [.load path] := by
      rw [opening]
      exact hpath
    rw [hopening]
    show (⟨(load {} folder path).1, folder⟩ : Scene) = _
    generalize load {} folder path = loaded at hnew ⊢
    obtain ⟨made, log, outcome⟩ := loaded
    cases outcome with
    | error cause => cases hnew
    | ok s =>
      obtain rfl := Except.ok.inj hnew
      rfl

theorem after_append [Limits] (scene : Scene) (first second : List Step) :
    after scene (first ++ second) = after (after scene first) second :=
  List.foldl_append

/-- Nothing has been loaded exactly if everything that was tried failed. -/
theorem lastLoaded_eq_none_iff (results : List (Except LoadFault Settings)) :
    lastLoaded results = none ↔ ∀ result ∈ results, ∃ cause, result = .error cause := by
  rw [lastLoaded, List.getLast?_eq_none_iff, List.filterMap_eq_nil_iff]
  refine forall₂_congr fun result _ => ?_
  cases result with
  | ok s => simp [Except.toOption]
  | error cause => simp [Except.toOption]

theorem get_eq_ok_iff (keeper : Keeper) (s : Settings) :
    keeper.get = .ok s ↔ keeper.current = some s := by
  rw [get]
  cases keeper.current with
  | none => simp
  | some found => simp

theorem get_eq_error_iff (keeper : Keeper) :
    keeper.get = .error .nothingLoaded ↔ keeper.current = none := by
  rw [get]
  cases keeper.current with
  | none => simp
  | some found => simp

/-- **Which settings are in force.**  A new keeper, which was made with a path or without one, goes
through any steps.  The settings that it gives are those of the last file that could be loaded, as
it was at the time, and it gives none exactly if no file could be loaded.  The settings that a load
returns are those that are given from then on; and steps of which no load succeeds leave the keeper
as it is, whatever they do to the files. -/
theorem get_after [Limits] (folder : Storage.Folder) (path : Option String) (keeper : Keeper)
    (hnew : (new folder path).1 = .ok keeper) (steps : List Step) :
    let scene := after ⟨keeper, folder⟩ steps
    let results := outcomes folder (opening path ++ steps)
    (∀ s, scene.keeper.get = .ok s ↔ lastLoaded results = some s) ∧
      (scene.keeper.get = .error .nothingLoaded ↔
        ∀ result ∈ results, ∃ cause, result = .error cause) ∧
      (∀ file s, (scene.keeper.load scene.folder file).2.outcome = .ok s →
        (scene.keeper.load scene.folder file).1.get = .ok s) ∧
      ∀ more, (∀ result ∈ outcomes scene.folder more, ∃ cause, result = .error cause) →
        (after scene more).keeper = scene.keeper := by
  intro scene results
  have hcurrent : scene.keeper.current = lastLoaded results := by
    have hall := current_after ⟨{}, folder⟩ (opening path ++ steps)
    rw [after_append, new_eq_ok hnew, Option.or_none] at hall
    exact hall
  refine ⟨fun s => ?_, ?_, fun file s hload => ?_, fun more hfailed => ?_⟩
  · rw [get_eq_ok_iff, hcurrent]
  · rw [get_eq_error_iff, hcurrent, lastLoaded_eq_none_iff]
  · have houtcome : (scene.keeper.load scene.folder file).2 = Settings.load scene.folder file := by
      rw [load]
      generalize Settings.load scene.folder file = loaded
      obtain ⟨log, outcome⟩ := loaded
      cases outcome with
      | ok s => rfl
      | error cause => rfl
    rw [get_eq_ok_iff, current_load, ← houtcome, hload]
    rfl
  · have hmore := current_after scene more
    rw [(lastLoaded_eq_none_iff _).mpr hfailed, Option.none_or] at hmore
    show (⟨(after scene more).keeper.current⟩ : Keeper) = ⟨scene.keeper.current⟩
    rw [hmore]

/-- A file is loaded and then overwritten by what is no document, and loading this or a file that is
not there leaves the settings of the first text in force. -/
theorem get_after_failed_loads :
    (@after .usual ⟨{}, sampleFolder "[app]\nlog_level = ERROR\n"⟩
      [.load "app.conf", .write "app.conf" (Utf8.encode "log_level = INFO\n"), .load "app.conf",
        .writeDefault "new/app.conf", .load "old/app.conf", .get]).keeper.get =
      .ok { logLevel := .error } :=
  ((@get_after .usual (sampleFolder "[app]\nlog_level = ERROR\n") none {} rfl
    [.load "app.conf", .write "app.conf" (Utf8.encode "log_level = INFO\n"), .load "app.conf",
      .writeDefault "new/app.conf", .load "old/app.conf", .get]).1 _).mpr (by decide +kernel)

end PeerName.Settings.Keeper
