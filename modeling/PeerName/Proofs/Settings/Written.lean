import PeerName.Proofs.Properties.Layout
import PeerName.Proofs.Settings.Change
import PeerName.Proofs.Settings.Override

/-!
# Settings that have been written

Settings can be written to a file in two sections, in either order and with their options in any
order: truth values as words, the level in any case, and the path of the log file with every percent
sign doubled.  However the file is laid out, and whatever the path is, the settings that are loaded
from it are the same again.

* `Settings.Writes` — how a setting is written;
* `Settings.Gives`, `Settings.WrittenIn` — a section and a file in which settings are written;
* `holds_of_writes` — a value stands for the setting that it was written for;
* `Settings.WrittenIn.ofLines` — the document of such a file;
* `exists_entries_of_gives`, `entry_of_gives` — its entries;
* `Settings.ofEntries_of_holds` — entries for all settings give these settings;
* `Settings.load_written` — **settings that have been written are loaded unchanged**.
-/

namespace PeerName

open Properties (Document Options doubled headerLine isFiller maxDepth names optionLine
  resolveSection sectionLines)
open Text (IsLine)
open Unicode (IsTrimmed)

/-! ### The layout of a settings file -/

/-- The word for a truth value. -/
def truthWord (b : Bool) : String := if b then "true" else "false"

namespace Settings

/-- The value that a setting is written with. -/
def Writes (s : Settings) (value : String) : Setting → Prop
  | .commonNameFallback => value = truthWord s.commonNameFallback
  | .wildcards => value = truthWord s.wildcards
  | .logLevel => value.toList.map Char.toUpper = s.logLevel.name.toList
  | .logFile => value.toList = doubled s.logFile.toList
  | .jsonLogging => value = truthWord s.jsonLogging

/-- A section gives its settings, each of them once, in any order. -/
def Gives (s : Settings) (owner : String) (own : Options) : Prop :=
  ∃ ks : List Setting, ks.Perm (Setting.all.filter (·.owner = owner)) ∧
    List.Forall₂ (fun k o => o.1 = k.name ∧ s.Writes o.2 k) ks own

/-- Lines with the two sections in either order, and between their lines any number of empty lines
and of comments. -/
def WrittenIn (s : Settings) (lines : List (List Char)) : Prop :=
  (∀ line ∈ lines, isFiller line = true → IsLine line) ∧
    ∃ verification app, s.Gives "verification" verification ∧ s.Gives "app" app ∧
      (lines.filter (!isFiller ·) =
          sectionLines "verification" verification ++ sectionLines "app" app ∨
        lines.filter (!isFiller ·) =
          sectionLines "app" app ++ sectionLines "verification" verification)

end Settings

variable {s : Settings} {k : Setting} {value : String}

/-! ### Values -/

theorem toNat_lt_of_toUpper {c : Char} (h : c.toUpper.toNat < 128) : c.toNat < 128 := by
  by_cases hc : 'a'.val ≤ c.val ∧ c.val ≤ 'z'.val
  · have hz : c.toNat ≤ 122 := hc.2
    omega
  · have hself : c.toUpper = c := dif_neg hc
    rwa [hself] at h

/-- A character that becomes part of the name of a level is a letter. -/
theorem letter_of_toUpper {c : Char} {l : LogLevel} (h : c.toUpper ∈ l.name.toList) :
    Unicode.upperChar c = [c.toUpper] ∧ Unicode.isBlank c = false ∧ c ∉ ['%', '\n', '\r'] := by
  have hname : l.name.toList.all (·.toNat < 128) = true := by
    cases l <;> decide
  have hletters : ∀ n < 128, (Char.ofNat n).toUpper ∈ l.name.toList →
      Unicode.upperChar (Char.ofNat n) = [(Char.ofNat n).toUpper] ∧
        Unicode.isBlank (Char.ofNat n) = false ∧ Char.ofNat n ∉ ['%', '\n', '\r'] := by
    cases l <;> decide
  have hc := hletters c.toNat (toNat_lt_of_toUpper
    (of_decide_eq_true (List.all_eq_true.mp hname _ h)))
  rw [Char.ofNat_toNat] at hc
  exact hc h

section Level

variable {l : LogLevel} (h : value.toList.map Char.toUpper = l.name.toList)

include h

/-- The name of a level in any case is made of letters. -/
theorem level_letters : ∀ c ∈ value.toList, Unicode.upperChar c = [c.toUpper] ∧
    Unicode.isBlank c = false ∧ c ∉ ['%', '\n', '\r'] := by
  intro c hc
  apply letter_of_toUpper (l := l)
  rw [← h]
  exact List.mem_map_of_mem hc

theorem level_trimmed : IsTrimmed value.toList :=
  ⟨fun c hc => (level_letters h c (List.mem_of_head? hc)).2.1,
    fun c hc => (level_letters h c (List.mem_of_getLast? hc)).2.1⟩

theorem level_isLine : IsLine value.toList :=
  ⟨fun hc => (level_letters h _ hc).2.2 (by decide),
    fun hc => (level_letters h _ hc).2.2 (by decide)⟩

theorem level_doubled : doubled value.toList = value.toList :=
  Properties.doubled_eq_self fun hc => (level_letters h _ hc).2.2 (by decide)

theorem upper_level : Unicode.upper value = l.name := by
  have hletters : value.toList.flatMap Unicode.upperChar = value.toList.map Char.toUpper := by
    rw [List.map_eq_flatMap]
    exact List.flatMap_congr fun c hc => (level_letters h c hc).1
  rw [Unicode.upper, hletters, h, String.ofList_toList]

end Level

/-- The words for truth values are as plain as the names of levels, and mean what they say. -/
theorem truthWord_plain (b : Bool) : IsTrimmed (truthWord b).toList ∧ IsLine (truthWord b).toList ∧
    doubled (truthWord b).toList = (truthWord b).toList ∧
    Settings.truth (.text (truthWord b)) = b := by
  cases b <;> decide

/-- A value stands on its line, and nothing of it is trimmed. -/
theorem plain_of_writes (h : s.Writes value k) (hline : IsLine s.logFile.toList)
    (htrimmed : IsTrimmed s.logFile.toList) : IsLine value.toList ∧ IsTrimmed value.toList := by
  have hword (b : Bool) (hvalue : value = truthWord b) :
      IsLine value.toList ∧ IsTrimmed value.toList := by
    obtain ⟨htrimmed, hline, -, -⟩ := truthWord_plain b
    rw [hvalue]
    exact ⟨hline, htrimmed⟩
  cases k with
  | commonNameFallback => exact hword _ h
  | wildcards => exact hword _ h
  | logLevel => exact ⟨level_isLine h, level_trimmed h⟩
  | logFile =>
    have hvalue : value.toList = doubled s.logFile.toList := h
    rw [hvalue]
    refine ⟨⟨fun hc => hline.1 ?_, fun hc => hline.2 ?_⟩, ?_, ?_⟩
    · exact Properties.mem_of_mem_doubled hc
    · exact Properties.mem_of_mem_doubled hc
    · rw [Properties.head?_doubled]
      exact htrimmed.1
    · rw [Properties.getLast?_doubled]
      exact htrimmed.2
  | jsonLogging => exact hword _ h

/-- A value stands for the setting that it was written for. -/
theorem holds_of_writes (h : s.Writes value k) :
    ∃ meant, value.toList = doubled meant ∧ s.Holds (.text (String.ofList meant)) k := by
  have hword (b : Bool) (hvalue : value = truthWord b) :
      ∃ meant, value.toList = doubled meant ∧
        Settings.truth (.text (String.ofList meant)) = b := by
    obtain ⟨-, -, hdoubled, htruth⟩ := truthWord_plain b
    refine ⟨value.toList, ?_, ?_⟩
    · rw [hvalue, hdoubled]
    · rw [String.ofList_toList, hvalue, htruth]
  cases k with
  | commonNameFallback =>
    obtain ⟨meant, hmeant, htruth⟩ := hword _ h
    exact ⟨meant, hmeant, htruth.symm⟩
  | wildcards =>
    obtain ⟨meant, hmeant, htruth⟩ := hword _ h
    exact ⟨meant, hmeant, htruth.symm⟩
  | logLevel =>
    have hlevel : value.toList.map Char.toUpper = s.logLevel.name.toList := h
    refine ⟨value.toList, (level_doubled hlevel).symm, ?_⟩
    show LogLevel.ofName? (Unicode.upper (Settings.trimText (String.ofList value.toList))) = _
    rw [String.ofList_toList, Settings.trimText, (level_trimmed hlevel).trim_eq,
      String.ofList_toList, upper_level hlevel, LogLevel.ofName?_name]
  | logFile =>
    refine ⟨s.logFile.toList, h, ?_⟩
    show s.logFile = String.ofList s.logFile.toList
    rw [String.ofList_toList]
  | jsonLogging =>
    obtain ⟨meant, hmeant, htruth⟩ := hword _ h
    exact ⟨meant, hmeant, htruth.symm⟩

/-! ### Sections -/

theorem Setting.isName (k : Setting) : Properties.IsName k.name := by
  cases k with
  | commonNameFallback | wildcards | logLevel | logFile | jsonLogging =>
    exact ⟨by decide, by decide, by decide, _, _, rfl, by decide⟩

theorem Setting.isLine_name (k : Setting) : IsLine k.name.toList := by
  cases k <;> exact ⟨by decide, by decide⟩

theorem Setting.name_injective : Function.Injective Setting.name := by
  intro k other h
  have hkey := Setting.ofKey?_name k
  rw [h, Setting.ofKey?_name] at hkey
  exact (Option.some.inj hkey).symm

namespace Settings.Gives

variable {owner : String} {own : Options} (h : s.Gives owner own)

include h

theorem nodup : (names own).Nodup := by
  obtain ⟨ks, hperm, hall⟩ := h
  have hnames : names own = ks.map Setting.name := by
    clear hperm
    induction hall with
    | nil => rfl
    | cons hfirst _ ih =>
      rw [names, List.map_cons, List.map_cons, hfirst.1]
      exact congrArg _ ih
  have hks : ks.Nodup := hperm.nodup_iff.mpr (List.Nodup.filter _ (by decide))
  rw [hnames]
  exact hks.map Setting.name_injective

/-- Every option is a setting of the section. -/
theorem writes {o : String × String} (ho : o ∈ own) :
    ∃ k : Setting, o.1 = k.name ∧ s.Writes o.2 k := by
  obtain ⟨ks, -, hall⟩ := h
  obtain ⟨k, -, hk⟩ := Properties.exists_of_forall₂ hall.flip ho
  exact ⟨k, hk⟩

/-- Every setting of the section is given. -/
theorem exists_lookup (k : Setting) (hk : k.owner = owner) :
    ∃ value, own.lookup k.name = some value ∧ s.Writes value k := by
  have hnodup := h.nodup
  obtain ⟨ks, hperm, hall⟩ := h
  have hmem : k ∈ ks := by
    rw [hperm.mem_iff, List.mem_filter]
    exact ⟨k.mem_all, decide_eq_true hk⟩
  obtain ⟨⟨name, value⟩, ho, hname, hwrites⟩ := Properties.exists_of_forall₂ hall hmem
  obtain rfl : name = k.name := hname
  cases hlookup : own.lookup k.name with
  | none =>
    rw [Properties.lookup_eq_none_iff_notMem] at hlookup
    exact absurd (Properties.mem_names_of_mem ho) hlookup
  | some found =>
    rw [Properties.eq_of_mem_of_nodup hnodup (Properties.mem_of_lookup hlookup) ho]
    exact ⟨value, rfl, hwrites⟩

variable (hline : IsLine s.logFile.toList) (htrimmed : IsTrimmed s.logFile.toList)

include hline htrimmed

/-- A section is read as it has been written. -/
theorem grows {sections : List (String × Options)} (hnew : owner ∉ names sections)
    (howner : owner ≠ Properties.defaultName) (hne : owner ≠ "") :
    Properties.Grows sections (sectionLines owner own) (sections ++ [(owner, own)]) := by
  refine Properties.grows_section hnew howner hne h.nodup (fun o ho => ?_) fun o ho => ?_
  · obtain ⟨k, hname, -⟩ := h.writes ho
    rw [hname]
    exact k.isName
  · obtain ⟨k, -, hwrites⟩ := h.writes ho
    exact (plain_of_writes hwrites hline htrimmed).2

/-- Neither the header nor an option of a section is more than one line. -/
theorem isLine (howner : IsLine owner.toList) {line : List Char}
    (hmem : line ∈ sectionLines owner own) : IsLine line := by
  rw [sectionLines, List.mem_cons] at hmem
  rcases hmem with rfl | hmem
  · exact Properties.isLine_headerLine howner
  · obtain ⟨o, ho, rfl⟩ := List.mem_map.mp hmem
    obtain ⟨k, hname, hwrites⟩ := h.writes ho
    rw [hname]
    exact Properties.isLine_optionLine k.isLine_name (plain_of_writes hwrites hline htrimmed).1

end Settings.Gives

/-! ### The document -/

/-- Lines in which settings are written form a document with the sections of all settings. -/
theorem Settings.WrittenIn.ofLines {lines : List (List Char)} (h : s.WrittenIn lines)
    (hline : IsLine s.logFile.toList) (htrimmed : IsTrimmed s.logFile.toList) :
    ∃ sections,
      Document.ofLines (.ofBytes (Utf8.encode (String.ofList (['\n'].intercalate lines)))) =
        .ok ⟨[], sections⟩ ∧
      (∀ p ∈ sections, s.Gives p.1 p.2) ∧ ∀ k : Setting, ∃ own, (k.owner, own) ∈ sections := by
  obtain ⟨hfillers, verification, app, hverification, happ, hlines⟩ := h
  have hwhole : ∀ line ∈ lines, IsLine line := by
    intro line hmem
    cases hfiller : isFiller line with
    | true => exact hfillers line hmem hfiller
    | false =>
      have hkept : line ∈ lines.filter (!isFiller ·) :=
        List.mem_filter.mpr ⟨hmem, by rw [hfiller]; rfl⟩
      have hsection : line ∈ sectionLines "verification" verification ∨
          line ∈ sectionLines "app" app := by
        rcases hlines with hlines | hlines
        · rwa [hlines, List.mem_append] at hkept
        · rwa [hlines, List.mem_append, or_comm] at hkept
      rcases hsection with hsection | hsection
      · exact hverification.isLine hline htrimmed ⟨by decide, by decide⟩ hsection
      · exact happ.isLine hline htrimmed ⟨by decide, by decide⟩ hsection
  rcases hlines with hlines | hlines
  · refine ⟨[("verification", verification), ("app", app)],
      Document.ofLines_of_grows hwhole ?_, ?_, ?_⟩
    · rw [hlines]
      exact (hverification.grows hline htrimmed (by decide) (by decide) (by decide)).append
        (happ.grows hline htrimmed (by simp [names]) (by decide) (by decide))
    · simpa using ⟨hverification, happ⟩
    · intro k
      cases k <;> simp [Setting.owner]
  · refine ⟨[("app", app), ("verification", verification)],
      Document.ofLines_of_grows hwhole ?_, ?_, ?_⟩
    · rw [hlines]
      exact (happ.grows hline htrimmed (by decide) (by decide) (by decide)).append
        (hverification.grows hline htrimmed (by simp [names]) (by decide) (by decide))
    · simpa using ⟨happ, hverification⟩
    · intro k
      cases k <;> simp [Setting.owner]

/-! ### The entries -/

/-- A section whose values have their percent signs doubled has no references. -/
theorem exists_resolved {owner : String} {own : Options}
    (h : ∀ o ∈ own, ∃ meant, o.2.toList = doubled meant) :
    ∃ found, resolveSection [] owner own = .ok found := by
  apply Properties.exists_mapM
  intro o ho
  obtain ⟨meant, hmeant⟩ := h o ((Properties.mem_overlay ho).resolve_left List.not_mem_nil)
  refine ⟨(o.1, String.ofList meant), ?_⟩
  rw [hmeant, maxDepth, Properties.expand_doubled]

/-- A draft gives the settings whose values are those of the draft. -/
theorem Settings.Draft.settings_of_holds {d : Draft}
    (h : ∀ k, ∃ v, d.Holds v k ∧ s.Holds v k) : d.settings = .ok s := by
  obtain ⟨_, hfallback, hfallback'⟩ := h .commonNameFallback
  obtain ⟨_, hwildcards, hwildcards'⟩ := h .wildcards
  obtain ⟨v, hlevel, hlevel'⟩ := h .logLevel
  obtain ⟨_, hfile, hfile'⟩ := h .logFile
  obtain ⟨_, hjson, hjson'⟩ := h .jsonLogging
  have hname : d.levelName = Unicode.upper (trimText (textOf v)) := hlevel
  have hfound : LogLevel.ofName? (Unicode.upper (trimText (textOf v))) = some s.logLevel :=
    hlevel'
  rw [Draft.settings, hname, hfound]
  dsimp only
  rw [show d.commonNameFallback = s.commonNameFallback from hfallback.trans hfallback'.symm,
    show d.wildcards = s.wildcards from hwildcards.trans hwildcards'.symm,
    show d.logFile = s.logFile from hfile.trans hfile'.symm,
    show d.jsonLogging = s.jsonLogging from hjson.trans hjson'.symm]

/-- **Entries for all settings give these settings**, if they are given under their qualified
names only. -/
theorem Settings.ofEntries_of_holds [Limits] {entries : Options} (hnodup : (names entries).Nodup)
    (h : ∀ k : Setting, k.name ∉ names entries ∧
      ∃ value, (k.key, value) ∈ entries ∧ s.Holds (.text value) k) :
    (ofEntries (entries.map fun e => (.text e.1, .text e.2))).outcome = .ok s := by
  rw [ofEntries_texts]
  apply Draft.settings_of_holds
  intro k
  obtain ⟨hname, value, hmem, hholds⟩ := h k
  refine ⟨.text value, ?_, hholds⟩
  obtain ⟨front, back, rfl⟩ := List.append_of_mem hmem
  rw [names_split] at hnodup hname
  have hkey : k.key ∉ names back :=
    (List.nodup_cons.mp (List.nodup_append.mp hnodup).2.1).1
  have hbare : k.name ∉ names back := by
    rw [List.mem_append, List.mem_cons, not_or, not_or] at hname
    exact hname.2.2
  -- nothing behind the entry means this setting, so that it is the last one to be set
  apply foldl_setOption_holds _ front (k.key, value) k.ofKey?_key
  intro o ho hmeant
  rcases (Setting.ofKey?_eq_some_iff o.1).mp hmeant with heq | heq
  · exact hkey (heq ▸ Properties.mem_names_of_mem ho)
  · exact hbare (heq ▸ Properties.mem_names_of_mem ho)

/-! ### Loading -/

/-- What a file is loaded as, once the entries of its document are known. -/
theorem Settings.load_of_entries [Limits] {folder : Storage.Folder} {path : String}
    {bytes : List UInt8} {doc : Document} {entries : Options}
    (hread : folder.read path = .ok bytes)
    (hdoc : Document.ofLines (.ofBytes bytes) = .ok doc) (hentries : doc.entries = .ok entries)
    (hmade : (ofEntries (entries.map fun e => (.text e.1, .text e.2))).outcome = .ok s) :
    (load folder path).outcome = .ok s := by
  rw [load_of_read hread, ofContent_of_entries hdoc hentries, hmade]
  rfl

section Entries

variable {sections : List (String × Options)} (hgives : ∀ p ∈ sections, s.Gives p.1 p.2)

include hgives

/-- Sections in which settings are written have entries. -/
theorem exists_entries_of_gives : ∃ entries, (⟨[], sections⟩ : Document).entries = .ok entries := by
  apply Document.exists_entries
  intro p hp
  refine exists_resolved fun o ho => ?_
  obtain ⟨k, -, hwrites⟩ := (hgives p hp).writes ho
  obtain ⟨meant, hmeant, -⟩ := holds_of_writes hwrites
  exact ⟨meant, hmeant⟩

/-- A setting has an entry with its value, and its bare name has none. -/
theorem entry_of_gives {entries own : Options}
    (hentries : (⟨[], sections⟩ : Document).entries = .ok entries)
    (hdistinct : (⟨[], sections⟩ : Document).Distinct) (hown : (k.owner, own) ∈ sections) :
    (names entries).Nodup ∧ k.name ∉ names entries ∧
      ∃ value, (k.key, value) ∈ entries ∧ s.Holds (.text value) k := by
  obtain ⟨value, hlookup, hwrites⟩ := (hgives _ hown).exists_lookup k rfl
  obtain ⟨meant, hmeant, hholds⟩ := holds_of_writes hwrites
  obtain ⟨found, hexpand, hmem, hnodup, hbare, -⟩ :=
    entries_of_section hdistinct hentries hown hlookup
  have hsame : found = meant := by
    rw [hmeant, maxDepth, Properties.expand_doubled] at hexpand
    exact (Except.ok.inj hexpand).symm
  subst hsame
  have hnone : entries.lookup k.name = none := hbare
  exact ⟨hnodup, Properties.lookup_eq_none_iff_notMem.mp hnone, String.ofList found, hmem, hholds⟩

end Entries

/-- **Settings that have been written are loaded unchanged.**  Take any settings, the path of whose
log file has no line end in it and neither begins nor ends with a blank, and any lines in which they
are written: the two sections in either order, their options in any order, and any empty lines and
comments in between.  From a file with these lines the same settings are loaded. -/
theorem Settings.load_written [Limits] (folder : Storage.Folder) (path : String) (s : Settings)
    (lines : List (List Char)) (hline : IsLine s.logFile.toList)
    (htrimmed : IsTrimmed s.logFile.toList) (hwritten : s.WrittenIn lines)
    (hread : folder.read path = .ok (Utf8.encode (String.ofList (['\n'].intercalate lines)))) :
    (Settings.load folder path).outcome = .ok s := by
  obtain ⟨sections, hdoc, hgives, hsections⟩ := hwritten.ofLines hline htrimmed
  obtain ⟨entries, hentries⟩ := exists_entries_of_gives hgives
  have hentry (k : Setting) : (names entries).Nodup ∧ k.name ∉ names entries ∧
      ∃ value, (k.key, value) ∈ entries ∧ s.Holds (.text value) k := by
    obtain ⟨own, hown⟩ := hsections k
    exact entry_of_gives hgives hentries (Document.distinct_ofLines hdoc) hown
  exact Settings.load_of_entries hread hdoc hentries
    (Settings.ofEntries_of_holds (hentry .logLevel).1 fun k => (hentry k).2)

/-- Settings whose log file has a path that looks like several other things. -/
def sampleSettings : Settings where
  wildcards := false
  logLevel := .warning
  logFile := "# 100% [app] = a;b: %(c)s"
  jsonLogging := true

/-- Lines in which they are written. -/
def sampleLines : List String :=
  ["# what is logged", "", "[app]", "json_logging = true", "; the path", "",
    "log_file_path = # 100%% [app] = a;b: %%(c)s", "", "log_level = Warning", "[verification]",
    "#", "allow_wildcards = false", "legacy_common_name_fallback = true", ""]

/-- They are loaded again. -/
theorem Settings.load_sampleLines :
    (@Settings.load .usual
      (sampleFolder (String.ofList (['\n'].intercalate (sampleLines.map String.toList))))
      "app.conf").outcome = .ok sampleSettings := by
  have hverification : sampleSettings.Gives "verification"
      [("allow_wildcards", "false"), ("legacy_common_name_fallback", "true")] :=
    ⟨[.wildcards, .commonNameFallback], by decide, .cons ⟨rfl, rfl⟩ (.cons ⟨rfl, rfl⟩ .nil)⟩
  have hfile : "# 100%% [app] = a;b: %%(c)s".toList = doubled sampleSettings.logFile.toList := by
    decide
  have hlevel : "Warning".toList.map Char.toUpper = sampleSettings.logLevel.name.toList := by
    decide
  have happ : sampleSettings.Gives "app"
      [("json_logging", "true"), ("log_file_path", "# 100%% [app] = a;b: %%(c)s"),
        ("log_level", "Warning")] :=
    ⟨[.jsonLogging, .logFile, .logLevel], by decide,
      .cons ⟨rfl, rfl⟩ (.cons ⟨rfl, hfile⟩ (.cons ⟨rfl, hlevel⟩ .nil))⟩
  exact @load_written .usual _ _ sampleSettings (sampleLines.map String.toList) (by decide)
    (by decide) ⟨by decide, _, _, hverification, happ, Or.inr (by decide)⟩ rfl

end PeerName
