import PeerName.Proofs.Properties.Distinct
import PeerName.Proofs.Settings.Content

/-!
# Settings of sections and of the defaults

A setting that its section gives counts, whatever the other sections and the defaults say about it,
with one exception.  Entries are gone through in order and the last one counts; and an entry that
the defaults give under the qualified name of the setting keeps its place there, although it gets
the value of the section.  When the defaults give the bare name behind it, this one counts.

* `Settings.Holds` — a setting is what a value converts to;
* `Shadows` — the defaults give the bare name of a setting behind its qualified name;
* `foldl_setOption_holds` — the last option that means a setting counts;
* `holds_of_entries`, `entries_of_section` — which entry counts, and what the entry of a section is;
* `section_overrides` — **when a section overrides the defaults**.
-/

namespace PeerName

open Properties (Document Options expand inherited maxDepth names)

/-- A setting is what a value converts to. -/
def Settings.Holds (s : Settings) (v : Value) : Setting → Prop
  | .commonNameFallback => s.commonNameFallback = truth v
  | .wildcards => s.wildcards = truth v
  | .logLevel => LogLevel.ofName? (Unicode.upper (trimText (textOf v))) = some s.logLevel
  | .logFile => s.logFile = textOf v
  | .jsonLogging => s.jsonLogging = truth v

/-- The defaults of a document give the bare name of a setting behind its qualified name. -/
def Shadows (doc : Document) (k : Setting) : Prop :=
  [k.key, k.name].Sublist (names doc.defaults)

variable {k other : Setting} {v w : Value} {s : Settings}

/-! ### Keys -/

namespace Setting

theorem dot_notMem (k : Setting) : '.' ∉ k.owner.toList ∧ '.' ∉ k.name.toList := by
  cases k <;> decide +kernel

theorem toList_qualified (owner name : String) :
    (owner ++ "." ++ name).toList = owner.toList ++ '.' :: name.toList := by
  simp

/-- The key of a setting is made of its section and its name in no other way. -/
theorem eq_of_qualified {owner name : String} (h : owner ++ "." ++ name = k.key) :
    owner = k.owner ∧ name = k.name := by
  have hlist := congrArg String.toList h
  rw [Setting.key, toList_qualified, toList_qualified] at hlist
  obtain ⟨howner, -, hname⟩ :=
    (List.append_cons_inj_of_notMem k.dot_notMem.1 k.dot_notMem.2).mp hlist.symm
  exact ⟨String.toList_inj.mp howner.symm, String.toList_inj.mp hname.symm⟩

/-- No qualified name is the bare name of a setting. -/
theorem qualified_ne_name (k : Setting) (owner name : String) : owner ++ "." ++ name ≠ k.name := by
  intro h
  have hdot : '.' ∈ (owner ++ "." ++ name).toList := by
    simp
  rw [h] at hdot
  exact k.dot_notMem.2 hdot

end Setting

/-! ### The last entry counts -/

namespace Settings

/-- A setting of a draft is what a value converts to. -/
def Draft.Holds (d : Draft) (v : Value) : Setting → Prop
  | .commonNameFallback => d.commonNameFallback = truth v
  | .wildcards => d.wildcards = truth v
  | .logLevel => d.levelName = Unicode.upper (trimText (textOf v))
  | .logFile => d.logFile = textOf v
  | .jsonLogging => d.jsonLogging = truth v

theorem Draft.holds_iff_part (d : Draft) : d.Holds v k ↔ d.part k = convert v k := by
  cases k <;> simp only [Draft.Holds, Draft.part, convert, Value.bool.injEq, Value.text.injEq]

theorem Draft.Holds.settings {d : Draft} (h : d.Holds v k) (hs : d.settings = .ok s) :
    s.Holds v k := by
  rw [Draft.settings] at hs
  cases hlevel : LogLevel.ofName? d.levelName with
  | none =>
    rw [hlevel] at hs
    cases hs
  | some level =>
    rw [hlevel] at hs
    obtain rfl := Except.ok.inj hs
    cases k with
    | logLevel =>
      have hname : d.levelName = Unicode.upper (trimText (textOf v)) := h
      show LogLevel.ofName? _ = some level
      rw [← hname, hlevel]
    | _ => exact h

/-- The effect of an option with a text as its value. -/
def setOption (state : Draft × List Journal.Record) (o : String × String) :
    Draft × List Journal.Record :=
  takeEntry state (.text o.1, .text o.2)

/-- **The last option that means a setting counts.** -/
theorem foldl_setOption_holds (state : Draft × List Journal.Record) (front : Options)
    (o : String × String) {back : Options} (hmeant : Setting.ofKey? o.1 = some k)
    (hback : ∀ o ∈ back, Setting.ofKey? o.1 ≠ some k) :
    ((front ++ o :: back).foldl setOption state).1.Holds (.text o.2) k := by
  have hoptions : (front ++ o :: back).foldl setOption state =
      ((front ++ o :: back).map fun o => (.text o.1, .text o.2)).foldl takeEntry state := by
    rw [List.foldl_map]
    rfl
  have hlast : lastMeant k ((front ++ o :: back).map fun o => (.text o.1, .text o.2)) =
      some (.text o.2) := by
    rw [List.map_append, List.map_cons]
    refine lastMeant_of_last (e := (.text o.1, .text o.2)) hmeant fun e he => ?_
    obtain ⟨other, hother, rfl⟩ := List.mem_map.mp he
    exact hback other hother
  rw [Draft.holds_iff_part, hoptions, Draft.part_foldl_takeEntry, hlast]
  rfl

/-- The settings that named texts give, in order. -/
theorem ofEntries_texts [Limits] (options : Options) :
    (ofEntries (options.map fun e => (.text e.1, .text e.2))).outcome =
      (options.foldl setOption ({}, [])).1.settings := by
  rw [ofEntries, setEntries_texts, List.foldl_map]
  rfl

end Settings

/-! ### Which entry counts -/

/-- What stands behind another, in a list where nothing is there twice. -/
theorem mem_of_pair_sublist {front back : List String} {a b : String}
    (h : [a, b].Sublist (front ++ a :: back)) (hfront : a ∉ front) : b ∈ back := by
  obtain ⟨first, second, heq, hfirst, hsecond⟩ := List.sublist_append_iff.mp h
  cases first with
  | nil =>
    rw [List.nil_append] at heq
    rw [← heq, List.cons_sublist_cons, List.singleton_sublist] at hsecond
    exact hsecond
  | cons c rest =>
    obtain rfl : a = c := (List.cons.inj heq).1
    exact absurd (hfirst.subset List.mem_cons_self) hfront

theorem names_split (front : Options) (o : String × String) (back : Options) :
    names (front ++ o :: back) = names front ++ o.1 :: names back := by
  simp only [names, List.map_append, List.map_cons]

/-- An entry counts if no other that means the setting stands behind it. -/
theorem holds_of_last {front back : Options} {name value : String}
    (hmeant : Setting.ofKey? name = some k) (hkey : k.key ∉ names back)
    (hname : k.name ∉ names back)
    (hs : ((front ++ (name, value) :: back).foldl Settings.setOption ({}, [])).1.settings =
      .ok s) :
    s.Holds (.text value) k := by
  apply (Settings.foldl_setOption_holds _ front (name, value) hmeant ?_).settings hs
  intro o ho hother
  rcases (Setting.ofKey?_eq_some_iff o.1).mp hother with heq | heq
  · exact hkey (heq ▸ Properties.mem_names_of_mem ho)
  · exact hname (heq ▸ Properties.mem_names_of_mem ho)

/-- **Which entry counts** for a setting that is there under its qualified name: this one, unless
the bare name stands behind it. -/
theorem holds_of_entries [Limits] {entries : Options} {value : String}
    (hnodup : (names entries).Nodup)
    (hmem : (k.key, value) ∈ entries)
    (hs : (Settings.ofEntries (entries.map fun e => (.text e.1, .text e.2))).outcome = .ok s) :
    (¬[k.key, k.name].Sublist (names entries) → s.Holds (.text value) k) ∧
      ∀ bare, [k.key, k.name].Sublist (names entries) → (k.name, bare) ∈ entries →
        s.Holds (.text bare) k := by
  rw [Settings.ofEntries_texts] at hs
  obtain ⟨front, back, rfl⟩ := List.append_of_mem hmem
  have hwhole := hnodup
  rw [names_split] at hnodup ⊢
  obtain ⟨-, hkeyBack, hdisjoint⟩ := List.nodup_append.mp hnodup
  obtain ⟨hkey, hback⟩ := List.nodup_cons.mp hkeyBack
  constructor
  · intro hlast
    apply holds_of_last k.ofKey?_key hkey _ hs
    intro hname
    have hpair : [k.key, k.name].Sublist (k.key :: names back) :=
      (List.singleton_sublist.mpr hname).cons_cons k.key
    exact hlast (hpair.trans (List.sublist_append_right _ _))
  · intro bare hbehind hbare
    have hfront : k.key ∉ names front := by
      intro h
      exact hdisjoint _ h _ List.mem_cons_self rfl
    obtain ⟨other, hother⟩ :=
      Properties.exists_of_mem_names (mem_of_pair_sublist hbehind hfront)
    obtain rfl : other = bare := Properties.eq_of_mem_of_nodup hwhole
      (List.mem_append_right _ (List.mem_cons_of_mem _ hother)) hbare
    -- behind the bare name there is neither of the two
    obtain ⟨between, rest, rfl⟩ := List.append_of_mem hother
    rw [names_split] at hkey hback
    rw [List.mem_append, List.mem_cons, not_or, not_or] at hkey
    have hrest : k.name ∉ names rest :=
      (List.nodup_cons.mp (List.nodup_append.mp hback).2.1).1
    apply holds_of_last k.ofKey?_name hkey.2.2 hrest
    rwa [← List.cons_append, ← List.append_assoc] at hs

/-! ### The entry of a section -/

variable {doc : Document} {own entries : Options} {raw : String}

/-- A section that has been resolved has the setting with the value that its references give, and
with no other. -/
theorem resolved_setting {defaults found : Options} (hdefaults : (names defaults).Nodup)
    (hown : (names own).Nodup) (hraw : own.lookup k.name = some raw)
    (hfound : Properties.resolveSection defaults k.owner own = .ok found) :
    ∃ value, expand (inherited defaults own) maxDepth raw.toList = .ok value ∧
      (k.name, String.ofList value) ∈ found ∧
      ∀ v, (k.name, v) ∈ found → v = String.ofList value := by
  have hmem : (k.name, raw) ∈ own := Properties.mem_of_lookup hraw
  have hinherited : (inherited defaults own).lookup k.name = some raw :=
    Properties.lookup_overlay hmem
      (fun v hv => Properties.eq_of_mem_of_nodup hown hv hmem) defaults
  obtain ⟨r, hr, hname, hvalue⟩ := Properties.exists_of_forall₂
    (Properties.forall₂_of_resolveSection hfound) (Properties.mem_of_lookup hinherited)
  cases hexpand : expand (inherited defaults own) maxDepth raw.toList with
  | error flaw =>
    rw [hexpand] at hvalue
    cases hvalue
  | ok value =>
    rw [hexpand] at hvalue
    have hpair : (k.name, String.ofList value) = r := Prod.ext hname.symm (Except.ok.inj hvalue)
    have hnodup : (names found).Nodup := by
      rw [Properties.names_of_resolveSection hfound]
      exact Properties.nodup_names_overlay hdefaults own
    have hvalueMem : (k.name, String.ofList value) ∈ found := hpair ▸ hr
    exact ⟨value, rfl, hvalueMem, fun v hv =>
      Properties.eq_of_mem_of_nodup hnodup hv hvalueMem⟩

theorem sublist_of_notMem {front extra : List String} {a b : String}
    (h : [a, b].Sublist (front ++ extra)) (hb : b ∉ extra) : [a, b].Sublist front := by
  obtain ⟨first, second, heq, hfirst, hsecond⟩ := List.sublist_append_iff.mp h
  rcases second.eq_nil_or_concat' with rfl | ⟨rest, last, rfl⟩
  · rw [List.append_nil] at heq
    rwa [heq]
  · rw [← List.append_assoc] at heq
    have hlast : b = last := by
      have := congrArg List.getLast? heq
      simpa using this
    exact absurd (hsecond.subset (by simp [hlast])) hb

/-- Two names stay in their order, and come into it in no other way, when options are laid over of
which none has the second name. -/
theorem sublist_names_overlay_iff {options new : Options} {a b : String}
    (hnodup : (names (Properties.overlay options new)).Nodup) (hb : b ∉ names new) :
    [a, b].Sublist (names (Properties.overlay options new)) ↔ [a, b].Sublist (names options) := by
  obtain ⟨extra, hextra⟩ := Properties.prefix_names_overlay options new
  have hmem : b ∈ extra → b ∈ names options := by
    intro h
    have hall : b ∈ names (Properties.overlay options new) := by
      rw [← hextra]
      exact List.mem_append_right _ h
    exact ((Properties.mem_names_overlay_iff _ _ _).mp hall).resolve_right hb
  rw [← hextra] at hnodup ⊢
  constructor
  · intro h
    apply sublist_of_notMem h
    intro hlate
    exact (List.nodup_append.mp hnodup).2.2 _ (hmem hlate) _ hlate rfl
  · intro h
    exact h.trans (List.sublist_append_left _ _)

/-- What the sections lay over the defaults holds a setting of a section with its value, and with no
other. -/
theorem qualified_setting {found : List (String × Options)} {f : String × Options}
    {value : String}
    (hfound : List.Forall₂ (fun s f => f.1 = s.1 ∧
      Properties.resolveSection doc.defaults s.1 s.2 = .ok f.2) doc.sections found)
    (hdoc : doc.Distinct) (hown : (k.owner, own) ∈ doc.sections) (hf : f ∈ found)
    (hname : f.1 = k.owner)
    (hresolved : Properties.resolveSection doc.defaults k.owner own = .ok f.2)
    (hvalue : (k.name, value) ∈ f.2) (honly : ∀ v, (k.name, v) ∈ f.2 → v = value) :
    (k.key, value) ∈ found.flatMap (fun f => Properties.qualify f.1 f.2) ∧
      ∀ v, (k.key, v) ∈ found.flatMap (fun f => Properties.qualify f.1 f.2) → v = value := by
  constructor
  · refine List.mem_flatMap.mpr ⟨f, hf, List.mem_map.mpr ⟨_, hvalue, ?_⟩⟩
    rw [hname]
    rfl
  · intro v hv
    obtain ⟨g, hg, hqualified⟩ := List.mem_flatMap.mp hv
    obtain ⟨⟨name, w⟩, ho, heq⟩ := List.mem_map.mp hqualified
    obtain ⟨hkey, rfl⟩ := Prod.mk.inj heq
    obtain ⟨howner, rfl⟩ := Setting.eq_of_qualified hkey
    -- there is no other section of this name
    obtain ⟨⟨owner, options⟩, hs, hgname, hgresolved⟩ := Properties.exists_of_forall₂ hfound.flip hg
    obtain rfl : owner = k.owner := hgname.symm.trans howner
    obtain rfl := Properties.eq_of_mem_of_nodup hdoc.sections hs hown
    rw [hresolved] at hgresolved
    rw [← Except.ok.inj hgresolved] at ho
    exact honly w ho

/-- **The entry of a section** has the value of the section.  The entry of the bare name is that of
the defaults, and it stands behind exactly if it does so among the defaults. -/
theorem entries_of_section (hdoc : doc.Distinct) (hentries : doc.entries = .ok entries)
    (hown : (k.owner, own) ∈ doc.sections) (hraw : own.lookup k.name = some raw) :
    ∃ value, expand (inherited doc.defaults own) maxDepth raw.toList = .ok value ∧
      (k.key, String.ofList value) ∈ entries ∧ (names entries).Nodup ∧
      entries.lookup k.name = doc.defaults.lookup k.name ∧
      ([k.key, k.name].Sublist (names entries) ↔ Shadows doc k) := by
  obtain ⟨found, hfound, rfl⟩ := Document.entries_eq hentries
  obtain ⟨f, hf, hfname, hresolved⟩ := Properties.exists_of_forall₂ hfound hown
  obtain ⟨value, hexpand, hvalue, honly⟩ :=
    resolved_setting hdoc.defaults (hdoc.options _ hown) hraw hresolved
  obtain ⟨hkey, hkeyOnly⟩ :=
    qualified_setting hfound hdoc hown hf hfname hresolved hvalue honly
  have hbare : k.name ∉ names (found.flatMap fun f => Properties.qualify f.1 f.2) := by
    intro h
    obtain ⟨v, hv⟩ := Properties.exists_of_mem_names h
    obtain ⟨g, -, hg⟩ := List.mem_flatMap.mp hv
    obtain ⟨o, -, ho⟩ := List.mem_map.mp hg
    exact k.qualified_ne_name g.1 o.1 (Prod.mk.inj ho).1
  have hnodup := Properties.nodup_names_overlay hdoc.defaults
    (found.flatMap fun f => Properties.qualify f.1 f.2)
  exact ⟨value, hexpand, Properties.mem_of_lookup (Properties.lookup_overlay hkey hkeyOnly _),
    hnodup, Properties.lookup_overlay_of_notMem hbare _, sublist_names_overlay_iff hnodup hbare⟩

/-! ### Sections and defaults -/

/-- What has been loaded is what the entries of the document in the file give. -/
theorem entries_of_load [Limits] {folder : Storage.Folder} {path : String} {bytes : List UInt8}
    (hread : folder.read path = .ok bytes) (hdoc : Document.ofLines (.ofBytes bytes) = .ok doc)
    (hload : (Settings.load folder path).outcome = .ok s) :
    ∃ entries, doc.entries = .ok entries ∧
      (Settings.ofEntries (entries.map fun e => (.text e.1, .text e.2))).outcome = .ok s := by
  rw [Settings.load_of_read hread] at hload
  cases hentries : doc.entries with
  | error cause =>
    rw [Settings.ofContent_of_unresolved hdoc hentries] at hload
    cases hload
  | ok entries =>
    rw [Settings.ofContent_of_entries hdoc hentries] at hload
    refine ⟨entries, rfl, ?_⟩
    cases hmade : (Settings.ofEntries (entries.map fun e => (.text e.1, .text e.2))).outcome with
    | error cause =>
      rw [hmade] at hload
      cases hload
    | ok made =>
      rw [hmade] at hload
      exact congrArg Except.ok (Except.ok.inj hload)

/-- **When a section overrides the defaults.**  Take settings that have been loaded from a file,
and a setting that its section gives in this file.  The references in the value of the section lead
somewhere; and the setting is what comes of the value then, whatever else the document holds, unless
the defaults give the setting under its qualified name and its bare name behind it.  In this case
it is what the defaults say under the bare name. -/
theorem section_overrides [Limits] (folder : Storage.Folder) (path : String) (bytes : List UInt8)
    (doc : Document) (s : Settings) (k : Setting) (own : Options) (raw : String)
    (hread : folder.read path = .ok bytes) (hdoc : Document.ofLines (.ofBytes bytes) = .ok doc)
    (hload : (Settings.load folder path).outcome = .ok s)
    (hown : (k.owner, own) ∈ doc.sections) (hraw : own.lookup k.name = some raw) :
    ∃ value, expand (inherited doc.defaults own) maxDepth raw.toList = .ok value ∧
      (¬Shadows doc k → s.Holds (.text (String.ofList value)) k) ∧
      (Shadows doc k →
        ∃ bare, doc.defaults.lookup k.name = some bare ∧ s.Holds (.text bare) k) := by
  obtain ⟨entries, hentries, hmade⟩ := entries_of_load hread hdoc hload
  obtain ⟨value, hexpand, hmem, hnodup, hbare, hshadows⟩ :=
    entries_of_section (Document.distinct_ofLines hdoc) hentries hown hraw
  obtain ⟨hsection, hdefault⟩ := holds_of_entries hnodup hmem hmade
  refine ⟨value, hexpand, fun h => hsection fun hbehind => h (hshadows.mp hbehind), fun h => ?_⟩
  have hname : k.name ∈ names doc.defaults := h.subset (by simp)
  cases hlookup : doc.defaults.lookup k.name with
  | none =>
    obtain ⟨v, hv⟩ := Properties.exists_of_mem_names hname
    rw [List.lookup_eq_none_iff] at hlookup
    exact absurd (hlookup _ hv) (by simp)
  | some bare =>
    rw [hlookup] at hbare
    exact ⟨bare, rfl, hdefault bare (hshadows.mpr h) (Properties.mem_of_lookup hbare)⟩

/-- The section gives the level by a reference, and the defaults give it as well. -/
theorem section_overrides_log_level :
    let text := "[DEFAULT]\nlog_level = DEBUG\n[app]\nlog_level = %(wanted)s\nwanted = ERROR\n"
    ∃ doc s own value, Document.ofLines (.ofBytes (Utf8.encode text)) = .ok doc ∧
      (@Settings.load .usual (sampleFolder text) "app.conf").outcome = .ok s ∧
      doc.defaults = [("log_level", "DEBUG")] ∧ doc.sections = [("app", own)] ∧
      own.lookup "log_level" = some "%(wanted)s" ∧
      expand (inherited doc.defaults own) maxDepth "%(wanted)s".toList = .ok value ∧
      s.Holds (.text (String.ofList value)) .logLevel := by
  intro text
  have hclosed : (Document.ofLines (.ofBytes (Utf8.encode text))).toOption.map
      (fun doc => (doc.defaults, doc.sections)) =
      some ([("log_level", "DEBUG")],
        [("app", [("log_level", "%(wanted)s"), ("wanted", "ERROR")])]) := by
    decide +kernel
  have hloads :
      ((@Settings.load .usual (sampleFolder text) "app.conf").outcome.toOption).isSome = true := by
    decide +kernel
  cases hdoc : Document.ofLines (.ofBytes (Utf8.encode text)) with
  | error cause =>
    rw [hdoc] at hclosed
    cases hclosed
  | ok doc =>
    rw [hdoc] at hclosed
    obtain ⟨hdefaults, hsections⟩ := Prod.mk.inj (Option.some.inj hclosed)
    cases hload : (@Settings.load .usual (sampleFolder text) "app.conf").outcome with
    | error cause =>
      rw [hload] at hloads
      cases hloads
    | ok s =>
      let _ : Limits := .usual
      obtain ⟨value, hexpand, hsection, -⟩ := section_overrides (sampleFolder text) "app.conf" _
        doc s .logLevel [("log_level", "%(wanted)s"), ("wanted", "ERROR")] "%(wanted)s" rfl hdoc
        hload (by rw [hsections]; exact List.mem_singleton_self _) rfl
      have hclear : ¬Shadows doc .logLevel := by
        rw [Shadows, hdefaults]
        decide
      exact ⟨doc, s, _, value, rfl, rfl, hdefaults, hsections, rfl, hexpand, hsection hclear⟩

/-- The defaults give the level under its qualified name and then under its bare name.  The section
gives another level, and this does not count. -/
theorem defaults_shadow_section :
    let text := "[DEFAULT]\napp.log_level = INFO\nlog_level = DEBUG\n[app]\nlog_level = ERROR\n"
    (Document.ofLines (.ofBytes (Utf8.encode text))).toOption.map (·.sections) =
        some [("app", [("log_level", "ERROR")])] ∧
      (@Settings.load .usual (sampleFolder text) "app.conf").outcome.toOption.map (·.logLevel) =
        some .debug := by
  decide +kernel

end PeerName
