import PeerName.Journal.Setup
import PeerName.Proofs.Storage.Rotation

/-!
# What the journal does to a site

Setting the journal up makes the directories that the log file needs, and opens the log file.  From
then on a record that weighs enough is shown on the error stream, and goes to the end of the log
file, if there is one.  Its line may be missing, and then a trace of this is shown instead; or it
may fill the log file, and then files are moved about.  Otherwise nothing else changes.

* `Site.emit_journal` — records leave the journal as it is;
* `Site.emitAll_folder_of_silent` — without handlers they leave the folder as it is, too;
* `Site.Ready` — a journal that has been set up by some settings;
* `Site.emit_of_light`, `Site.emit_of_console`, `Site.emit_of_lost`, `Site.emit_of_room` — the
  effect of one record on it;
* `Site.setUp_ready` — a journal that has just been set up;
* `Site.SetsAside` — the record of the setting up fills the log file;
* `Site.setUp_grows` — **setting up changes nothing but the log file**, unless its record fills
  this;
* `Site.setUp_older` — where the log file is found when it does.
-/

namespace PeerName

open Journal (Dress Handler Level Origin Record)

/-- What has no result but its success has succeeded if it has not failed. -/
theorem eq_ok_of_isOk {ε : Type} {made : Except ε Unit} (h : made.isOk = true) : made = .ok () := by
  cases made with
  | ok _ => rfl
  | error cause => cases h

/-- What can be taken for a result has succeeded. -/
theorem eq_ok_of_toOption {ε α : Type} {made : Except ε α} {a : α} (h : made.toOption = some a) :
    made = .ok a := by
  cases made with
  | ok found => rw [Option.some.inj h]
  | error cause => cases h

/-- How the log file is written. -/
def Journal.dressOf (s : Settings) : Dress := if s.jsonLogging then .json else .plain

namespace Site

variable {site next : Site} {s : Settings}

/-! ### Journals that have been set up -/

/-- The journal without the log file. -/
def consoleOf (s : Settings) : Journal where
  level := s.logLevel.level
  handlers := [{ target := .console, level := s.logLevel.level, dress := .plain }]

/-- The handler for the log file. -/
def fileHandler (s : Settings) : Handler where
  target := .file (.ofPath s.logFile)
  level := s.logLevel.level
  dress := Journal.dressOf s

/-- The journal that settings ask for. -/
def journalOf (s : Settings) : Journal :=
  if s.logFile = "" then consoleOf s
  else { consoleOf s with handlers := (consoleOf s).handlers ++ [fileHandler s] }

theorem level_journalOf (s : Settings) : (journalOf s).level = s.logLevel.level := by
  rw [journalOf]
  split <;> rfl

/-- The journal has been set up by settings, and the log file is there if there is one. -/
structure Ready (site : Site) (s : Settings) : Prop where
  journal : site.journal = journalOf s
  opened : s.logFile ≠ "" → site.folder.Open (.ofPath s.logFile)
  file : s.logFile ≠ "" → ¬site.folder.Fileless (.ofPath s.logFile)

/-- The log file has been set up: the directories are there, the file is open, and there is a
handler for it. -/
theorem setUpFile_eq_ok (hready : site.setUpFile s = (next, .ok ())) :
    ∃ folder opened, site.folder.ensureParent s.logFile = (folder, .ok ()) ∧
      folder.openAt (.ofPath s.logFile) = .ok opened ∧
      next = { site with folder := opened }.addHandler (fileHandler s) := by
  rw [setUpFile] at hready
  cases hensured : site.folder.ensureParent s.logFile with
  | mk folder made =>
    rw [hensured] at hready
    dsimp only at hready
    cases made with
    | error cause => cases hready
    | ok _ =>
      dsimp only at hready
      split at hready
      · cases hready
      split at hready
      · cases hready
      next opened hopened =>
      obtain ⟨rfl, -⟩ := Prod.mk.inj hready
      exact ⟨folder, opened, rfl, hopened, rfl⟩

/-- From one folder to a later one the log file has been opened, and files hold what they held. -/
structure Opens (s : Settings) (folder opened : Storage.Folder) : Prop where
  grows : Storage.Folder.Grows (.ofPath s.logFile) folder opened
  content : ∀ p, opened.contentAt p = folder.contentAt p
  fileless : ∀ p, opened.Fileless p ↔
    folder.Fileless p ∧ ¬(s.logFile ≠ "" ∧ .ofPath s.logFile = p)

/-- Opening the log file leaves the rest as it is. -/
theorem setUpFile_opens (hfile : s.logFile ≠ "") (hready : site.setUpFile s = (next, .ok ())) :
    Opens s site.folder next.folder ∧ next.folder.Open (.ofPath s.logFile) ∧
      ¬next.folder.Fileless (.ofPath s.logFile) := by
  obtain ⟨folder, file, hensured, hopen, rfl⟩ := setUpFile_eq_ok hready
  have hparent := site.folder.ensureParent_grows s.logFile (.ofPath s.logFile)
  have hsame (p : Storage.Place) := site.folder.ensureParent_sameFile s.logFile p
  rw [hensured] at hparent hsame
  obtain ⟨hgrows, hopened⟩ := Storage.Folder.openAt_grows hopen
  obtain ⟨hplace, rfl⟩ := Storage.Folder.openAt_eq_ok hopen
  refine ⟨⟨hparent.trans hgrows, fun p => ?_, fun p => ?_⟩, hopened, ?_⟩
  · show (folder.append _ _).contentAt p = _
    rw [Storage.Folder.contentAt_append hplace, ite_self, List.append_nil, (hsame p).contentAt_eq]
  · show (folder.append _ _).Fileless p ↔ _
    rw [Storage.Folder.fileless_append_iff hplace, (hsame p).fileless_iff]
    refine and_congr_right fun _ => not_congr ?_
    exact ⟨fun hp => ⟨hfile, hp.symm⟩, fun hp => hp.2.symm⟩
  · show ¬(folder.append _ _).Fileless _
    rw [Storage.Folder.fileless_append_iff hplace]
    exact fun hfileless => hfileless.2 rfl

/-- When the log file has been set up, everything has. -/
theorem setUpFile_ready (hfile : s.logFile ≠ "")
    (hopened : (site.setUpConsole s).setUpFile s = (next, .ok ())) : next.Ready s := by
  obtain ⟨-, hopen, hthere⟩ := setUpFile_opens hfile hopened
  obtain ⟨folder, file, -, -, rfl⟩ := setUpFile_eq_ok hopened
  refine ⟨?_, fun _ => hopen, fun _ => hthere⟩
  rw [journalOf, if_neg hfile]
  rfl

/-- The record of the setting up. -/
def setUpRecord : Record where
  level := .debug
  logger := setupLogger
  message := "Logging service initialized"

/-! ### What records leave alone -/

theorem writeLine_journal (site : Site) (line : String) (target : Journal.Target) :
    (site.writeLine line target).1.journal = site.journal := by
  cases target <;> rfl

section Limits

variable [Limits] {o : Origin} {r : Record}

theorem handle_journal (r : Record) (handler : Handler) :
    (site.handle o r handler).journal = site.journal := by
  rw [handle]
  split
  · rfl
  split
  · rfl
  next line _ =>
    have hwritten := site.writeLine_journal (line ++ "\n") handler.target
    split
    · rename_i hline
      rwa [hline] at hwritten
    · rename_i hline
      rwa [hline] at hwritten

theorem foldl_handle_journal (r : Record) (handlers : List Handler) :
    (handlers.foldl (handle o r) site).journal = site.journal := by
  induction handlers generalizing site with
  | nil => rfl
  | cons handler rest ih => rw [List.foldl_cons, ih, handle_journal]

/-- Records never change the journal that they are written by. -/
theorem emit_journal (r : Record) : (site.emit o r).journal = site.journal := by
  rw [emit]
  split
  · rfl
  rw [write]
  split
  · split <;> rfl
  · exact foldl_handle_journal r _

theorem emitAll_cons (o : Nat → Origin) (site : Site) (r : Record) (rest : List Record) :
    site.emitAll o (r :: rest) = (site.emit (o site.count) r).emitAll o rest :=
  rfl

theorem emitAll_append (o : Nat → Origin) (site : Site) (records more : List Record) :
    site.emitAll o (records ++ more) = (site.emitAll o records).emitAll o more :=
  List.foldl_append

theorem emitAll_journal {o : Nat → Origin} (records : List Record) :
    (site.emitAll o records).journal = site.journal := by
  induction records generalizing site with
  | nil => rfl
  | cons r rest ih => rw [emitAll_cons, ih, emit_journal]

/-- A site without handlers keeps its folder, whatever is logged. -/
theorem emitAll_folder_of_silent {o : Nat → Origin} (hsilent : site.journal.handlers = [])
    (records : List Record) : (site.emitAll o records).folder = site.folder := by
  induction records generalizing site with
  | nil => rfl
  | cons r rest ih =>
    have hstep : (site.emit (o site.count) r).folder = site.folder := by
      rw [emit]
      split
      · rfl
      rw [write, hsilent, List.isEmpty_nil, if_pos rfl]
      split <;> rfl
    have hnext : (site.emit (o site.count) r).journal.handlers = [] := by
      rw [emit_journal, hsilent]
    rw [emitAll_cons, ih hnext, hstep]

/-! ### One record -/

/-- A record that does not weigh enough changes nothing. -/
theorem emit_of_light (h : site.Ready s) (hlight : r.level.number < s.logLevel.level.number) :
    site.emit o r = site := by
  rw [emit, h.journal, level_journalOf, if_pos hlight]

/-- Any other goes through the handlers. -/
theorem emit_of_heavy (h : site.Ready s) (hheavy : ¬r.level.number < s.logLevel.level.number) :
    site.emit o r =
      site.journal.handlers.foldl (handle o r) { site with count := site.count + 1 } := by
  have hlevel : ¬r.level.number < site.journal.level.number := by
    rwa [h.journal, level_journalOf]
  have hhandlers : ¬site.journal.handlers.isEmpty = true := by
    rw [h.journal, journalOf]
    split <;> exact Bool.false_ne_true
  rw [emit, if_neg hlevel, write, if_neg hhandlers]

/-- It is shown, and this is all where there is no log file. -/
theorem emit_of_console (h : site.Ready s) (hheavy : ¬r.level.number < s.logLevel.level.number)
    (hfile : s.logFile = "") :
    site.emit o r =
      { site.complain (Journal.plainLine o r ++ "\n") with count := site.count + 1 } := by
  have hhandlers : site.journal.handlers = (consoleOf s).handlers := by
    rw [h.journal, journalOf, if_pos hfile]
  rw [emit_of_heavy h hheavy, hhandlers, consoleOf, List.foldl_cons, List.foldl_nil, handle,
    if_neg hheavy]
  rfl

/-- Where there is a log file, the handler for it is next. -/
theorem emit_of_file (h : site.Ready s) (hheavy : ¬r.level.number < s.logLevel.level.number)
    (hfile : s.logFile ≠ "") :
    site.emit o r =
      handle o r { site.complain (Journal.plainLine o r ++ "\n") with count := site.count + 1 }
        (fileHandler s) := by
  have hhandlers : site.journal.handlers = (consoleOf s).handlers ++ [fileHandler s] := by
    rw [h.journal, journalOf, if_neg hfile]
  rw [emit_of_heavy h hheavy, hhandlers, consoleOf, List.singleton_append, List.foldl_cons,
    List.foldl_cons, List.foldl_nil]
  congr 1
  rw [handle, if_neg hheavy]
  rfl

/-- A record that has no line for the log file leaves a trace on the error stream. -/
theorem emit_of_lost (h : site.Ready s) (hheavy : ¬r.level.number < s.logLevel.level.number)
    (hfile : s.logFile ≠ "") {cause : Mismatch}
    (hline : (Journal.dressOf s).line o r = .error cause) :
    site.emit o r =
      { site.complain (Journal.plainLine o r ++ "\n" ++ o.trace) with
        count := site.count + 1 } := by
  rw [emit_of_file h hheavy hfile, handle, fileHandler, if_neg hheavy]
  dsimp only
  rw [hline]
  simp only [complain, String.append_assoc]

/-- A record with a line for which there is room goes to the end of the log file. -/
theorem emit_of_room (h : site.Ready s) (hheavy : ¬r.level.number < s.logLevel.level.number)
    (hfile : s.logFile ≠ "") {line : String} (hline : (Journal.dressOf s).line o r = .ok line)
    (hroom : ¬site.folder.Fills (.ofPath s.logFile) (line ++ "\n")) :
    site.emit o r =
      { site.complain (Journal.plainLine o r ++ "\n") with
        count := site.count + 1,
        folder := site.folder.append (.ofPath s.logFile) (Utf8.encode (line ++ "\n")) } := by
  rw [emit_of_file h hheavy hfile, handle, fileHandler, if_neg hheavy]
  dsimp only
  rw [hline]
  dsimp only [writeLine, complain]
  rw [Storage.Folder.addLine_of_room hroom]

/-! ### Setting up -/

/-- **A journal that has been set up**: the log file is open, and then the record of the setting up
has been written. -/
theorem setUp_ready (hready : site.setUp o s = (next, .ok ())) :
    ∃ opened : Site, next = opened.emit o setUpRecord ∧ opened.Ready s ∧
      Opens s site.folder opened.folder ∧ opened.stderr = site.stderr ∧
      opened.count = site.count := by
  rw [setUp] at hready
  by_cases hfile : s.logFile = ""
  · rw [if_pos hfile] at hready
    obtain ⟨rfl, -⟩ := Prod.mk.inj hready
    refine ⟨site.setUpConsole s, rfl,
      ⟨?_, fun hne => absurd hfile hne, fun hne => absurd hfile hne⟩,
      ⟨.refl _ _, fun p => rfl, fun p => (and_iff_left fun hp => hp.1 hfile).symm⟩, rfl, rfl⟩
    rw [journalOf, if_pos hfile]
    rfl
  · rw [if_neg hfile] at hready
    cases hopened : (site.setUpConsole s).setUpFile s with
    | mk opened made =>
      rw [hopened] at hready
      cases made with
      | error cause => cases hready
      | ok _ =>
        obtain ⟨rfl, -⟩ := Prod.mk.inj hready
        obtain ⟨hopens, -, -⟩ := setUpFile_opens hfile hopened
        obtain ⟨folder, file, -, -, hnext⟩ := setUpFile_eq_ok hopened
        exact ⟨opened, rfl, setUpFile_ready hfile hopened, hopens, hnext ▸ rfl, hnext ▸ rfl⟩

/-- A journal that has been set up is the one that the settings ask for. -/
theorem journal_of_setUp (hready : site.setUp o s = (next, .ok ())) :
    next.journal = journalOf s := by
  obtain ⟨opened, rfl, hopened, -⟩ := setUp_ready hready
  rw [emit_journal, hopened.journal]

/-- The record of the setting up is written to the log file, and fills it. -/
def SetsAside (o : Origin) (site : Site) (s : Settings) : Prop :=
  s.logFile ≠ "" ∧ s.logLevel.level.number ≤ Level.debug.number ∧
    ∃ line, (Journal.dressOf s).line o setUpRecord = .ok line ∧
      site.folder.Fills (.ofPath s.logFile) (line ++ "\n")

/-- **Setting the journal up changes nothing but the log file**, unless its record fills this. -/
theorem setUp_grows (hready : site.setUp o s = (next, .ok ())) (hstays : ¬site.SetsAside o s) :
    Storage.Folder.Grows (.ofPath s.logFile) site.folder next.folder := by
  obtain ⟨opened, rfl, hopened, hopens, -, -⟩ := setUp_ready hready
  by_cases hlight : setUpRecord.level.number < s.logLevel.level.number
  · rw [emit_of_light hopened hlight]
    exact hopens.grows
  by_cases hfile : s.logFile = ""
  · rw [emit_of_console hopened hlight hfile]
    exact hopens.grows
  cases hline : (Journal.dressOf s).line o setUpRecord with
  | error cause =>
    rw [emit_of_lost hopened hlight hfile hline]
    exact hopens.grows
  | ok line =>
    have hroom : ¬opened.folder.Fills (.ofPath s.logFile) (line ++ "\n") := by
      rw [Storage.Folder.Fills, hopens.content]
      exact fun hfills => hstays ⟨hfile, Int.not_lt.mp hlight, line, hline, hfills⟩
    rw [emit_of_room hopened hlight hfile hline hroom]
    exact hopens.grows.trans (Storage.Folder.append_grows (hopened.opened hfile) _)

/-- **The record of the setting up sets the log file aside** when it fills this: what has been in
the log file is found under the first number. -/
theorem setUp_older (haside : site.SetsAside o s)
    (hopened : (site.setUpConsole s).setUpFile s = (next, .ok ()))
    (hmoved : (Storage.Folder.setAside (.ofPath s.logFile) Storage.keptFiles next.folder).2 =
      .ok ()) :
    site.setUp o s = (next.emit o setUpRecord, .ok ()) ∧
      (next.emit o setUpRecord).folder.entryAt ((Storage.Place.ofPath s.logFile).older 1) =
        some (.file (site.folder.contentAt (.ofPath s.logFile))) := by
  obtain ⟨hfile, hlevel, line, hline, hfills⟩ := haside
  have hready := setUpFile_ready hfile hopened
  obtain ⟨hopens, -, hthere⟩ := setUpFile_opens hfile hopened
  have hcontent := hopens.content (.ofPath s.logFile)
  refine ⟨?_, ?_⟩
  · rw [setUp, if_neg hfile, hopened]
    rfl
  have hheavy : ¬setUpRecord.level.number < s.logLevel.level.number := Int.not_lt.mpr hlevel
  have hfull : next.folder.Fills (.ofPath s.logFile) (line ++ "\n") := by
    rw [Storage.Folder.Fills, hcontent]
    exact hfills
  obtain ⟨content, hentry⟩ := (next.folder.fileless_or_file _).resolve_left hthere
  obtain ⟨hadded, holder⟩ := Storage.Folder.addLine_of_full hfull hmoved hentry
  rw [Storage.Folder.contentAt_of_file hentry] at hcontent
  rw [emit_of_file hready hheavy hfile, handle, fileHandler, if_neg hheavy]
  dsimp only
  rw [hline]
  dsimp only [writeLine, complain]
  rw [hadded]
  dsimp only
  rw [holder, hcontent]
  rfl

end Limits

end Site

end PeerName
