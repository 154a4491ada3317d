import PeerName.Proofs.Properties.Overlay
import PeerName.Proofs.Settings.Merge

/-!
# Settings from the content of a file

What a path leads to decides how settings are loaded.  Where there is nothing, this is the fault.
The content of a file is read as a document, whose entries are the keys and values of the settings;
and the settings depend on nothing else.  Most faults of a content are faults of a value: it is no
text, no document, or gives no level.  A reference that leads nowhere is a fault of another kind.
It is enough that one section holds such a reference, in an option of its own or in one that it has
from the defaults, and in an option that is no setting just as well.

A directory is not a file without content, but it is treated as one.

* `Document.Resolves` — all references of a document lead somewhere;
* `Settings.ofContent` — what comes of the bytes of a file;
* `Settings.StandsIn` — settings that a content gives;
* `Settings.LoadFault.BadContent` — the faults that a content is expected to have;
* `Settings.ContentCourse`, `course_ofContent` — how far the reading of a content gets;
* `load_of_missing`, `load_of_directory`, `load_of_file` — what is loaded from a path;
* `Settings.load_law` — **what a path and a content come to**;
* `Settings.load_unforeseen` — a reference that leads nowhere, and a directory.
-/

namespace PeerName

namespace Properties

/-! ### References of a document -/

/-- All references of a document lead somewhere, in every option that a section has, be it its own
or one of the defaults. -/
def Document.Resolves (doc : Document) : Prop :=
  ∀ s ∈ doc.sections, ∀ o ∈ inherited doc.defaults s.2,
    ∃ value, expand (inherited doc.defaults s.2) maxDepth o.2.toList = .ok value

theorem exists_resolveSection_iff (defaults : Options) (owner : String) (own : Options) :
    (∃ found, resolveSection defaults owner own = .ok found) ↔
      ∀ o ∈ inherited defaults own,
        ∃ value, expand (inherited defaults own) maxDepth o.2.toList = .ok value := by
  constructor
  · rintro ⟨found, hfound⟩ o ho
    obtain ⟨r, -, -, hvalue⟩ := exists_of_forall₂ (forall₂_of_resolveSection hfound) ho
    cases hexpand : expand (inherited defaults own) maxDepth o.2.toList with
    | error flaw =>
      rw [hexpand] at hvalue
      cases hvalue
    | ok value => exact ⟨value, rfl⟩
  · intro h
    apply exists_mapM
    intro o ho
    obtain ⟨value, hvalue⟩ := h o ho
    refine ⟨(o.1, String.ofList value), ?_⟩
    rw [hvalue]

/-- A document has entries if all its references lead somewhere. -/
theorem Document.exists_entries_iff (doc : Document) :
    (∃ entries, doc.entries = .ok entries) ↔ doc.Resolves := by
  constructor
  · rintro ⟨entries, hentries⟩ s hs
    obtain ⟨found, hfound, -⟩ := Document.entries_eq hentries
    obtain ⟨f, -, -, hresolved⟩ := exists_of_forall₂ hfound hs
    exact (exists_resolveSection_iff _ _ _).mp ⟨f.2, hresolved⟩
  · intro h
    apply Document.exists_entries
    intro s hs
    exact (exists_resolveSection_iff _ _ _).mpr (h s hs)

end Properties

open Properties (Document Options)

namespace Settings

/-! ### The content -/

/-- What comes of the bytes of a file. -/
def ofContent [Limits] (path : String) (bytes : List UInt8) : Except LoadFault Settings :=
  match Document.ofLines (.ofBytes bytes) with
  | .error (.malformed cause) => .error (.malformed path cause)
  | .error (.undecodable cause) => .error (.undecodable cause)
  | .ok doc =>
    match doc.entries with
    | .error cause => .error (.unresolved cause)
    | .ok entries =>
      (ofEntries (entries.map fun e => (.text e.1, .text e.2))).outcome.mapError .invalid

/-- Settings that a content gives: it is a document, and every setting is as the last entry that
means it says, or as it is by default. -/
def StandsIn (s : Settings) (bytes : List UInt8) : Prop :=
  ∃ doc entries, Document.ofLines (.ofBytes bytes) = .ok doc ∧ doc.entries = .ok entries ∧
    s.Merges (entries.map fun e => (e.1, .text e.2))

/-- The faults that a content is expected to have: it is no text, no document, or gives no level. -/
inductive LoadFault.BadContent : LoadFault → Prop
  | undecodable (cause : Utf8.Fault) : BadContent (.undecodable cause)
  | malformed (file : String) (cause : Properties.SyntaxFault) : BadContent (.malformed file cause)
  | level : BadContent (.invalid .unknownLevel)

variable {folder : Storage.Folder} {path : String} {place : Storage.Place} {bytes : List UInt8}
  {doc : Document} {entries : Options} {s : Settings}

/-- Named texts are keys and values. -/
theorem outcome_texts [Limits] (entries : Options) :
    (ofEntries (entries.map fun e => (.text e.1, .text e.2))).outcome =
      (draftOf (entries.map fun e => (e.1, .text e.2))).settings := by
  rw [ofEntries, setEntries_texts, draftOf, pairs, List.map_map]
  rfl

theorem ofContent_of_entries [Limits] (hdoc : Document.ofLines (.ofBytes bytes) = .ok doc)
    (hentries : doc.entries = .ok entries) :
    ofContent path bytes =
      (ofEntries (entries.map fun e => (.text e.1, .text e.2))).outcome.mapError .invalid := by
  rw [ofContent, hdoc]
  dsimp only
  rw [hentries]

theorem ofContent_of_unresolved [Limits] {cause : Properties.Unresolved}
    (hdoc : Document.ofLines (.ofBytes bytes) = .ok doc) (hentries : doc.entries = .error cause) :
    ofContent path bytes = .error (.unresolved cause) := by
  rw [ofContent, hdoc]
  dsimp only
  rw [hentries]

/-- How far the reading of a content gets, and what comes of it. -/
inductive ContentCourse (path : String) (bytes : List UInt8) : Except LoadFault Settings → Prop
  | undecodable {cause : Utf8.Fault}
      (hdoc : Document.ofLines (.ofBytes bytes) = .error (.undecodable cause)) :
      ContentCourse path bytes (.error (.undecodable cause))
  | malformed {cause : Properties.SyntaxFault}
      (hdoc : Document.ofLines (.ofBytes bytes) = .error (.malformed cause)) :
      ContentCourse path bytes (.error (.malformed path cause))
  | unresolved {doc : Document} {cause : Properties.Unresolved}
      (hdoc : Document.ofLines (.ofBytes bytes) = .ok doc) (hentries : doc.entries = .error cause) :
      ContentCourse path bytes (.error (.unresolved cause))
  | level {doc : Document} {entries : Options}
      (hdoc : Document.ofLines (.ofBytes bytes) = .ok doc) (hentries : doc.entries = .ok entries) :
      ContentCourse path bytes (.error (.invalid .unknownLevel))
  | settings {s : Settings} (hs : s.StandsIn bytes) : ContentCourse path bytes (.ok s)

theorem course_ofContent [Limits] (path : String) (bytes : List UInt8) :
    ContentCourse path bytes (ofContent path bytes) := by
  cases hdoc : Document.ofLines (.ofBytes bytes) with
  | error cause =>
    rw [ofContent, hdoc]
    cases cause with
    | malformed cause => exact .malformed hdoc
    | undecodable cause => exact .undecodable hdoc
  | ok doc =>
    cases hentries : doc.entries with
    | error cause =>
      rw [ofContent_of_unresolved hdoc hentries]
      exact .unresolved hdoc hentries
    | ok entries =>
      rw [ofContent_of_entries hdoc hentries, outcome_texts]
      cases hmade : (draftOf (entries.map fun e => (e.1, .text e.2))).settings with
      | error cause =>
        obtain ⟨rfl, -⟩ := Draft.settings_eq_error_iff.mp hmade
        exact .level hdoc hentries
      | ok s =>
        exact .settings ⟨doc, entries, hdoc, hentries, (settings_draftOf_eq_ok_iff _).mp hmade⟩

theorem ofContent_eq_ok_iff [Limits] (path : String) :
    ofContent path bytes = .ok s ↔ s.StandsIn bytes := by
  constructor
  · intro h
    have hcourse := course_ofContent path bytes
    rw [h] at hcourse
    cases hcourse with
    | settings hs => exact hs
  · rintro ⟨doc, entries, hdoc, hentries, hmerges⟩
    rw [ofContent_of_entries hdoc hentries, outcome_texts,
      (settings_draftOf_eq_ok_iff _).mpr hmerges]
    rfl

/-- A content has one of the expected faults, or a reference in it leads nowhere. -/
theorem fault_of_ofContent [Limits] {fault : LoadFault} (h : ofContent path bytes = .error fault) :
    fault.BadContent ∨ ∃ cause, fault = .unresolved cause := by
  have hcourse := course_ofContent path bytes
  rw [h] at hcourse
  cases hcourse with
  | undecodable => exact Or.inl (.undecodable _)
  | malformed => exact Or.inl (.malformed path _)
  | unresolved => exact Or.inr ⟨_, rfl⟩
  | level => exact Or.inl .level

/-- The fault of another kind comes exactly of a document with a reference that leads nowhere. -/
theorem ofContent_unresolved_iff [Limits] (path : String) :
    (∃ cause, ofContent path bytes = .error (.unresolved cause)) ↔
      ∃ doc, Document.ofLines (.ofBytes bytes) = .ok doc ∧ ¬doc.Resolves := by
  constructor
  · rintro ⟨cause, h⟩
    have hcourse := course_ofContent path bytes
    rw [h] at hcourse
    cases hcourse with
    | @unresolved doc _ hdoc hentries =>
      refine ⟨doc, hdoc, ?_⟩
      intro hresolves
      obtain ⟨entries, hfound⟩ := doc.exists_entries_iff.mpr hresolves
      rw [hentries] at hfound
      cases hfound
  · rintro ⟨doc, hdoc, hdead⟩
    cases hentries : doc.entries with
    | ok entries => exact absurd (doc.exists_entries_iff.mp ⟨entries, hentries⟩) hdead
    | error cause => exact ⟨cause, ofContent_of_unresolved hdoc hentries⟩

/-! ### The path -/

theorem load_of_missing [Limits] {cause : Storage.Fault} (hfind : folder.find path = .error cause) :
    (load folder path).outcome = .error (.missing path) := by
  have hholds : folder.holds path = false := by
    rw [Storage.Folder.holds, hfind]
    rfl
  rw [load, hholds]
  rfl

/-- What is found under a path is loaded, once its entries are known. -/
theorem load_of_found [Limits] {entry : Storage.Entry}
    (hfind : folder.find path = .ok (place, entry)) :
    (load folder path).outcome = (readEntries folder path).bind fun entries =>
      (ofEntries (entries.map fun e => (.text e.1, .text e.2))).outcome.mapError .invalid := by
  have hholds : folder.holds path = true := by
    rw [Storage.Folder.holds, hfind]
    rfl
  rw [load, hholds, Bool.not_true, if_neg Bool.false_ne_true]
  cases readEntries folder path with
  | error cause => rfl
  | ok entries =>
    dsimp only [Except.bind]
    cases (ofEntries (entries.map fun e => (.text e.1, .text e.2))).outcome with
    | error cause => rfl
    | ok made => rfl

/-- A directory has no entries, so that nothing but defaults comes of it. -/
theorem load_of_directory [Limits] (hfind : folder.find path = .ok (place, .directory)) :
    (load folder path).outcome = .ok {} := by
  have hentries : readEntries folder path = .ok [] := by
    rw [readEntries, Storage.Folder.read, hfind]
  rw [load_of_found hfind, hentries]
  rfl

/-- A file is loaded by its content. -/
theorem load_of_file [Limits] (hfind : folder.find path = .ok (place, .file bytes)) :
    (load folder path).outcome = ofContent path bytes := by
  have hread : folder.read path = .ok bytes := by
    rw [Storage.Folder.read, hfind]
  rw [load_of_found hfind, readEntries, hread, ofContent]
  dsimp only
  cases Document.ofLines (.ofBytes bytes) with
  | error cause => cases cause <;> rfl
  | ok doc =>
    dsimp only
    cases doc.entries with
    | error cause => rfl
    | ok entries => rfl

theorem load_of_read [Limits] (hread : folder.read path = .ok bytes) :
    (load folder path).outcome = ofContent path bytes := by
  rw [Storage.Folder.read] at hread
  split at hread
  next place content hfind =>
    obtain rfl := Except.ok.inj hread
    exact load_of_file hfind
  next => cases hread
  next => cases hread

/-- The only fault of settings in a file is a level that is not known. -/
theorem invalid_of_load [Limits] {cause : Fault}
    (h : (load folder path).outcome = .error (.invalid cause)) :
    cause = .unknownLevel := by
  cases hfind : folder.find path with
  | error fault =>
    rw [load_of_missing hfind] at h
    cases h
  | ok found =>
    obtain ⟨place, entry⟩ := found
    cases entry with
    | directory =>
      rw [load_of_directory hfind] at h
      cases h
    | file bytes =>
      rw [load_of_file hfind] at h
      obtain hbad | ⟨other, hother⟩ := fault_of_ofContent h
      · cases hbad
        rfl
      · cases hother

/-- **What a path and a content come to.**  Where there is nothing, this is the fault.  From a file
exactly those settings are loaded that its content gives, whatever else the folder holds; it has one
of the faults that a content is expected to have, or a reference in it leads nowhere, and this
happens exactly if its content is a document in which some section has such a reference, its own or
one of the defaults.  A directory gives the settings by default. -/
theorem load_law [Limits] (folder : Storage.Folder) (path : String) :
    let outcome := (load folder path).outcome
    match folder.find path with
    | .error _ => outcome = .error (.missing path)
    | .ok (_, .directory) => outcome = .ok {}
    | .ok (_, .file bytes) =>
      (∀ s, outcome = .ok s ↔ s.StandsIn bytes) ∧
        (∀ fault, outcome = .error fault →
          fault.BadContent ∨ ∃ cause, fault = .unresolved cause) ∧
        ((∃ cause, outcome = .error (.unresolved cause)) ↔
          ∃ doc, Document.ofLines (.ofBytes bytes) = .ok doc ∧ ¬doc.Resolves) := by
  cases hfind : folder.find path with
  | error cause => exact load_of_missing hfind
  | ok found =>
    obtain ⟨place, entry⟩ := found
    cases entry with
    | directory => exact load_of_directory hfind
    | file bytes =>
      dsimp only
      rw [load_of_file hfind]
      refine ⟨?_, ?_, ofContent_unresolved_iff path⟩
      · intro s
        exact ofContent_eq_ok_iff path
      · intro fault hfault
        exact fault_of_ofContent hfault

end Settings

/-- A folder with one settings file. -/
def sampleFolder (text : String) : Storage.Folder :=
  ({ home := "/" } : Storage.Folder).give "app.conf" (.file (Utf8.encode text))

/-- A value refers to an option that is not there, and the fault is none that is expected.  A
directory gives the settings by default. -/
theorem Settings.load_unforeseen :
    (∃ fault, (@Settings.load .usual (sampleFolder "[app]\nlog_level = %(missing)s\n")
        "app.conf").outcome = .error fault ∧ (∀ path, fault ≠ .missing path) ∧
        ¬fault.BadContent) ∧
      (@Settings.load .usual (({ home := "/" } : Storage.Folder).give "adir" .directory)
        "adir").outcome = .ok {} := by
  have hdead : (match (@Settings.load .usual (sampleFolder "[app]\nlog_level = %(missing)s\n")
        "app.conf").outcome with
      | .error (.unresolved _) => true
      | _ => false) = true := by
    decide +kernel
  constructor
  · split at hdead
    next cause hload =>
      refine ⟨.unresolved cause, hload, ?_, ?_⟩
      · intro path h
        cases h
      · intro h
        cases h
    next => cases hdead
  · let _ : Limits := .usual
    exact Settings.load_of_directory rfl

end PeerName
