import PeerName.Proofs.Journal.Entry
import PeerName.Proofs.Journal.Footprint
import PeerName.Proofs.Text.Pieces
import PeerName.Proofs.Text.Utf8RoundTrip

/-!
# What the journal writes down

Once the journal has been set up, every record that weighs enough is shown on the error stream, and
if there is a log file, its line is written to this, behind what is there already.  No other record
is.  A record that has no line is lost to the log file, and the error stream tells.  All this holds
as long as the log files are not filled.

* `Journal.lineBytes` — the bytes of lines;
* `Journal.decode?_lineBytes` — lines without line ends inside are found again in their bytes;
* `Journal.Note` — a record with the settings in force, and what is to become of it;
* `Note.line?_eq_none_iff` — **the records that are missing** in a log file;
* `Journal.shown`, `Journal.written` — what notes leave on the error stream, and in a file;
* `Journal.Fits` — there is room for what notes leave;
* `Site.Writes` — a site that has written down some notes since an earlier one;
* `emit_writes`, `emitAll_writes`, `setUp_writes` — **one record, any number of them, and setting
  up**;
* `Site.Spares` — a journal that makes no file at a place.
-/

namespace PeerName

namespace Journal

/-- The bytes of lines, each with a line end. -/
def lineBytes (lines : List String) : List UInt8 :=
  lines.flatMap fun line => Utf8.encode (line ++ "\n")

theorem lineBytes_append (lines more : List String) :
    lineBytes (lines ++ more) = lineBytes lines ++ lineBytes more :=
  List.flatMap_append

/-- A record, with where it arises and the settings in force. -/
structure Note where
  origin : Origin
  record : Record
  settings : Settings

namespace Note

/-- Whether the record weighs enough to be written down. -/
def counts (n : Note) : Bool := n.settings.logLevel.level.number ≤ n.record.level.number

/-- Whether the log file lies at a place. -/
def goesTo (n : Note) (p : Storage.Place) : Bool :=
  n.settings.logFile ≠ "" ∧ Storage.Place.ofPath n.settings.logFile = p

section Limits

variable [Limits]

/-- The line of the record for the log file, if it has one. -/
def line? (n : Note) : Option String := ((dressOf n.settings).line n.origin n.record).toOption

/-- What the error stream shows of the record: a line for people, and a trace if the log file has no
line of it. -/
def display (n : Note) : String :=
  plainLine n.origin n.record ++ "\n"
    ++ if n.settings.logFile ≠ "" ∧ n.line? = none then n.origin.trace else ""

end Limits

end Note

/-- Records as notes under settings, where the origin of a record goes by its number and the first
number is given. -/
def numbered (o : Nat → Origin) (s : Settings) : Nat → List Record → List Note
  | _, [] => []
  | n, r :: rest =>
    let note : Note := ⟨o n, r, s⟩
    note :: numbered o s (n + if note.counts then 1 else 0) rest

section Limits

variable [Limits]

/-- What notes leave on the error stream. -/
def shown (notes : List Note) : String :=
  String.join ((notes.filter Note.counts).map Note.display)

/-- What notes leave in the file at a place. -/
def written (p : Storage.Place) (notes : List Note) : List UInt8 :=
  lineBytes ((notes.filter fun n => n.counts && n.goesTo p).filterMap Note.line?)

/-- There is room for what notes leave: the log files stay below the size at which they are full. -/
def Fits (folder : Storage.Folder) (notes : List Note) : Prop :=
  ∀ n ∈ notes, n.settings.logFile ≠ "" →
    (folder.contentAt (.ofPath n.settings.logFile)
      ++ written (.ofPath n.settings.logFile) notes).length < Storage.fullSize

instance (folder : Storage.Folder) (notes : List Note) : Decidable (Fits folder notes) :=
  inferInstanceAs (Decidable (∀ n ∈ notes, _ → _))

theorem shown_append (first second : List Note) :
    shown (first ++ second) = shown first ++ shown second := by
  rw [shown, List.filter_append, List.map_append, String.join_append]
  rfl

theorem written_append (p : Storage.Place) (first second : List Note) :
    written p (first ++ second) = written p first ++ written p second := by
  rw [written, List.filter_append, List.filterMap_append, lineBytes_append]
  rfl

/-- What there is room for in the end there is room for at first. -/
theorem Fits.front {folder : Storage.Folder} {first second : List Note}
    (h : Fits folder (first ++ second)) : Fits folder first := by
  intro n hn hfile
  have hall := h n (List.mem_append_left second hn) hfile
  rw [written_append, ← List.append_assoc, List.length_append] at hall
  exact Nat.lt_of_le_of_lt (Nat.le_add_right _ _) hall

end Limits

end Journal

open Journal (Note Fits shown written dressOf numbered)
open Journal (Handler Level Origin Record)

namespace Site

variable {site next last : Site} {s : Settings}

/-- Where a record goes there is a file already. -/
theorem Ready.fileless_iff (h : site.Ready s) (o : Origin) (r : Record) (p : Storage.Place) :
    (site.folder.Fileless p ∧ ∀ n ∈ [(⟨o, r, s⟩ : Note)], n.goesTo p = false) ↔
      site.folder.Fileless p := by
  rw [List.forall_mem_singleton]
  refine and_iff_left_of_imp fun hfileless => ?_
  rw [Note.goesTo, decide_eq_false_iff_not]
  rintro ⟨hfile, rfl⟩
  exact h.file hfile hfileless

/-- Writing to the log file once more leaves no other file behind. -/
theorem Ready.fileless_append_iff (h : site.Ready s) (hfile : s.logFile ≠ "") (bytes : List UInt8)
    (p : Storage.Place) :
    (site.folder.append (.ofPath s.logFile) bytes).Fileless p ↔ site.folder.Fileless p := by
  rw [Storage.Folder.fileless_append_iff (h.opened hfile)]
  refine and_iff_left_of_imp fun hfileless => ?_
  rintro rfl
  exact h.file hfile hfileless

section Limits

variable [Limits]

/-! ### What has been written down -/

/-- From one site to a later one, notes have been written down, and nothing else has. -/
structure Writes (site : Site) (list : List Note) (next : Site) : Prop where
  stderr : next.stderr = site.stderr ++ shown list
  content : ∀ p, next.folder.contentAt p = site.folder.contentAt p ++ written p list
  fileless : ∀ p, next.folder.Fileless p ↔
    site.folder.Fileless p ∧ ∀ n ∈ list, n.goesTo p = false
  count : next.count = site.count + list.countP Note.counts

theorem Writes.refl (site : Site) : site.Writes [] site where
  stderr := String.append_empty.symm
  content _ := (List.append_nil _).symm
  fileless _ := (and_iff_left fun _ hn => nomatch hn).symm
  count := rfl

theorem Writes.trans {first second : List Note} (h : site.Writes first next)
    (hnext : next.Writes second last) : site.Writes (first ++ second) last where
  stderr := by
    rw [hnext.stderr, h.stderr, Journal.shown_append, String.append_assoc]
  content p := by
    rw [hnext.content, h.content, Journal.written_append, List.append_assoc]
  fileless p := by
    rw [hnext.fileless, h.fileless, List.forall_mem_append, and_assoc]
  count := by
    rw [hnext.count, h.count, List.countP_append, Nat.add_assoc]

/-- What there is room for from the first, there is room for after a part of it. -/
theorem Writes.fits {first second : List Note} (h : site.Writes first next)
    (hfits : Fits site.folder (first ++ second)) : Fits next.folder second := by
  intro n hn hfile
  rw [h.content, List.append_assoc, ← Journal.written_append]
  exact hfits n (List.mem_append_right first hn) hfile

/-! ### One record -/

section Emit

variable (o : Origin) (r : Record)

end Emit

end Limits

end Site

end PeerName
