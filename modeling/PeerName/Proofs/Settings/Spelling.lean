import PeerName.Proofs.Settings.Written

/-!
# The two spellings of a setting

A setting can be given among the defaults, or in its section.  The two are not read alike: a value
among the defaults is taken as it stands, while the references of a value in a section are
followed.  Where the value is the only one in the file, no reference leads anywhere, so that only
doubled percent signs are left, and each two of them stand for one.

The two spellings agree on every value without a percent sign.  With one they agree for the level,
which is never known then, and, as long as the percent signs are doubled, for the switches, which
are off then.  The path of the log file is another one with every spelling.

* `doubled_of_expandWith`, `expand_alone_iff` — a value without other options;
* `oneSetting` — a file with one setting;
* `ofLines_defaults`, `ofLines_section` — its document, in both spellings;
* `Settings.load_bare`, `Settings.load_owned` — what is loaded from it;
* `Settings.spellings_agree_iff` — **when the two spellings agree**;
* `Settings.spellings_differ` — a path with percent signs.
-/

namespace PeerName

namespace Properties

/-! ### A value without other options -/

theorem exists_of_map_eq_ok {before : Except ReferenceFlaw (List Char)}
    {f : List Char → List Char} {out : List Char} (h : before.map f = .ok out) :
    ∃ rest, before = .ok rest ∧ f rest = out := by
  cases before with
  | error flaw => cases h
  | ok rest => exact ⟨rest, rfl, Except.ok.inj h⟩

section Expand

variable {resolve : String → Except ReferenceFlaw (List Char)}
  (hresolve : ∀ name value, resolve name ≠ .ok value)

include hresolve

/-- A percent sign that is not doubled begins a reference that leads nowhere, or nothing at all. -/
theorem expandWith_percent_ne_ok (fuel : Nat) {rest : List Char} (hrest : rest.head? ≠ some '%')
    (out : List Char) : expandWith resolve (fuel + 1) ('%' :: rest) ≠ .ok out := by
  intro h
  rw [expandWith.eq_def] at h
  dsimp only at h
  rw [if_neg (not_not_intro rfl)] at h
  split at h
  · exact hrest rfl
  · split at h
    next inner _ more _ =>
      split at h
      · cases h
      · cases hvalue :
            resolve (Unicode.lower (String.ofList (inner.takeWhile (· != ')')))) with
        | ok value => exact hresolve _ value hvalue
        | error flaw =>
          rw [hvalue] at h
          cases h
    next => cases h
  · cases h

/-- Where references lead nowhere, a value is made of doubled percent signs and of characters that
stand for themselves. -/
theorem doubled_of_expandWith {fuel : Nat} {s out : List Char} (hfuel : s.length ≤ fuel)
    (h : expandWith resolve fuel s = .ok out) : s = doubled out := by
  induction fuel using Nat.strong_induction_on generalizing s out with
  | _ fuel ih =>
    cases s with
    | nil =>
      have hout : expandWith resolve fuel [] = .ok [] := by cases fuel <;> rfl
      rw [hout] at h
      obtain rfl := Except.ok.inj h
      rfl
    | cons c rest =>
      rw [List.length_cons] at hfuel
      obtain ⟨room, rfl⟩ : ∃ room, fuel = room + 1 := ⟨fuel - 1, by omega⟩
      by_cases hc : c = '%'
      · subst hc
        by_cases hrest : rest.head? = some '%'
        · obtain ⟨more, rfl⟩ := List.head?_eq_some_iff.mp hrest
          rw [expandWith_percents] at h
          obtain ⟨tail, hmore, rfl⟩ := exists_of_map_eq_ok h
          rw [List.length_cons] at hfuel
          rw [doubled_cons, if_pos rfl, ← ih room (Nat.lt_succ_self room) (by omega) hmore]
          rfl
        · exact absurd h (expandWith_percent_ne_ok hresolve room hrest out)
      · rw [expandWith_cons_of_ne resolve room hc] at h
        obtain ⟨tail, hrest, rfl⟩ := exists_of_map_eq_ok h
        rw [doubled_cons, if_neg hc, ← ih room (Nat.lt_succ_self room) (by omega) hrest]
        rfl

end Expand

variable {value : String}

/-- A reference leads back to the value itself or to nothing. -/
theorem expand_alone_ne_ok (hplain : ∀ out, value.toList ≠ doubled out) (name : String)
    (depth : Nat) (out : List Char) : expand [(name, value)] depth value.toList ≠ .ok out := by
  have hpercent : value.toList.contains '%' = true := by
    rw [List.contains_iff_mem]
    by_contra hnone
    exact hplain value.toList (doubled_eq_self hnone).symm
  induction depth generalizing out with
  | zero =>
    intro h
    rw [expand] at h
    cases h
  | succ depth ih =>
    intro h
    rw [expand] at h
    refine hplain out (doubled_of_expandWith (fun other result => ?_) (Nat.le_refl _) h)
    by_cases hother : other = name
    · rw [hother, List.lookup_cons, beq_self_eq_true]
      dsimp only
      rw [hpercent, if_pos rfl]
      exact ih result
    · rw [List.lookup_cons, beq_false_of_ne hother]
      intro hnone
      cases hnone

/-- **A value that is the only one** has its references followed exactly if its percent signs are
doubled. -/
theorem expand_alone_iff (name value : String) (depth : Nat) (out : List Char) :
    expand [(name, value)] (depth + 1) value.toList = .ok out ↔ value.toList = doubled out := by
  constructor
  · intro h
    by_cases hplain : ∃ meant, value.toList = doubled meant
    · obtain ⟨meant, hmeant⟩ := hplain
      rw [hmeant, expand_doubled] at h
      rw [hmeant, Except.ok.inj h]
    · exact absurd h (expand_alone_ne_ok (not_exists.mp hplain) name (depth + 1) out)
  · intro h
    rw [h]
    exact expand_doubled _ depth out

/-- A text is its own doubled form only without percent signs. -/
theorem percent_notMem_of_doubled {s : List Char} (h : doubled s = s) : '%' ∉ s := by
  have hlength (s : List Char) : s.length + s.count '%' = (doubled s).length := by
    induction s with
    | nil => rfl
    | cons c s ih =>
      rw [doubled_cons, List.length_append, ← ih, List.length_cons, List.count_cons]
      by_cases hc : c = '%'
      · rw [if_pos hc, if_pos (by simpa using hc), List.length_cons, List.length_singleton]
        omega
      · rw [if_neg hc, if_neg (by simpa using hc), List.length_singleton]
        omega
  have hsame := hlength s
  rw [h] at hsame
  exact List.count_eq_zero.mp (by omega)

end Properties

open Properties (Document Options doubled expand headerLine maxDepth optionLine)
open Text (IsLine)
open Unicode (IsTrimmed)

/-! ### A file with one setting -/

/-- A file with one section, which gives one setting. -/
def oneSetting (owner : String) (k : Setting) (value : String) : String :=
  "[" ++ owner ++ "]\n" ++ k.name ++ " = " ++ value

variable {owner value : String} {k : Setting}

theorem oneSetting_eq (owner : String) (k : Setting) (value : String) :
    oneSetting owner k value =
      String.ofList (['\n'].intercalate [headerLine owner, optionLine k.name value]) := by
  rw [← String.toList_inj, String.toList_ofList]
  simp [oneSetting, headerLine, optionLine, List.intercalate]

theorem closeOptions_single (htrimmed : IsTrimmed value.toList) (name : String) :
    Properties.closeOptions [(name, [value.toList])] = [(name, value)] := by
  rw [Properties.closeOptions, List.map_singleton, List.intercalate_singleton,
    Unicode.trimEnd_eq_self htrimmed.2, String.ofList_toList]

section Lines

variable (hline : IsLine value.toList) (htrimmed : IsTrimmed value.toList)

include hline htrimmed

/-- The file is read header first, and then its option. -/
theorem ofLines_oneSetting {d e : Properties.Draft} (hne : owner ≠ "")
    (howner : IsLine owner.toList) (henter : ({} : Properties.Draft).enter 1 owner = .ok d)
    (hcurrent : d.current = some owner)
    (hadd : ({ d with indent := 0 } : Properties.Draft).addOption 2 owner k.name value.toList =
      .ok e)
    (hread : e.unreadable = []) :
    Document.ofLines (.ofBytes (Utf8.encode (oneSetting owner k value))) = .ok e.document := by
  have hlines : ∀ line ∈ [headerLine owner, optionLine k.name value], IsLine line := by
    intro line hmem
    rcases List.mem_pair.mp hmem with rfl | rfl
    · exact Properties.isLine_headerLine howner
    · exact Properties.isLine_optionLine k.isLine_name hline
  obtain ⟨kept, reads, hkept, hreads, hbytes⟩ := Text.lines_ofBytes hlines
  have hwhole : [headerLine owner, optionLine k.name value] = kept := by
    rcases hkept with hkept | hkept
    · exact hkept
    · have hlast := congrArg List.getLast? hkept
      simp [optionLine] at hlast
  subst hwhole
  rcases hreads with _ | ⟨hheader, _ | ⟨hoption, _ | _⟩⟩
  rw [oneSetting_eq, hbytes, Document.ofLines]
  dsimp only
  rw [Properties.Draft.readLines, Properties.Draft.readLine_headerLine _ 1 hne hheader, henter]
  dsimp only
  rw [Properties.Draft.readLines,
    Properties.Draft.readLine_optionLine 2 k.isName htrimmed hcurrent hoption, hadd]
  dsimp only
  rw [Properties.Draft.readLines]
  dsimp only
  rw [hread, List.isEmpty_nil, if_pos rfl]

/-- The setting is among the defaults. -/
theorem ofLines_defaults (k : Setting) :
    Document.ofLines (.ofBytes (Utf8.encode (oneSetting Properties.defaultName k value))) =
      .ok ⟨[(k.name, value)], []⟩ := by
  let opened : Properties.Draft := { current := some Properties.defaultName }
  let final : Properties.Draft :=
    { opened with defaults := [(k.name, [value.toList])], option := some k.name }
  have henter : ({} : Properties.Draft).enter 1 Properties.defaultName = .ok opened := rfl
  have hadd : opened.addOption 2 Properties.defaultName k.name value.toList = .ok final := by
    cases k <;> rfl
  rw [ofLines_oneSetting hline htrimmed (by decide) (by decide) henter rfl hadd rfl]
  show Except.ok (⟨Properties.closeOptions [(k.name, [value.toList])], []⟩ : Document) = _
  rw [closeOptions_single htrimmed]

/-- The setting is in its section. -/
theorem ofLines_section (k : Setting) :
    Document.ofLines (.ofBytes (Utf8.encode (oneSetting k.owner k value))) =
      .ok ⟨[], [(k.owner, [(k.name, value)])]⟩ := by
  let opened : Properties.Draft := { current := some k.owner, sections := [(k.owner, [])] }
  let final : Properties.Draft :=
    { opened with sections := [(k.owner, [(k.name, [value.toList])])], option := some k.name }
  have henter : ({} : Properties.Draft).enter 1 k.owner = .ok opened := by
    cases k <;> rfl
  have hadd : opened.addOption 2 k.owner k.name value.toList = .ok final := by
    cases k <;> rfl
  have hne : k.owner ≠ "" := by
    cases k <;> decide
  have howner : IsLine k.owner.toList := by
    cases k <;> decide
  rw [ofLines_oneSetting hline htrimmed hne howner henter rfl hadd rfl]
  show Except.ok (⟨[], [(k.owner, Properties.closeOptions [(k.name, [value.toList])])]⟩ :
    Document) = _
  rw [closeOptions_single htrimmed]

end Lines

/-- The entry of the section has the text that its value stands for. -/
theorem entries_section {meant : List Char} (hmeant : value.toList = doubled meant) (k : Setting) :
    (⟨[], [(k.owner, [(k.name, value)])]⟩ : Document).entries =
      .ok [(k.key, String.ofList meant)] := by
  have hexpand : expand [(k.name, value)] maxDepth value.toList = .ok meant :=
    (Properties.expand_alone_iff k.name value 9 meant).mpr hmeant
  have hsection : Properties.resolveSection [] k.owner [(k.name, value)] =
      .ok [(k.name, String.ofList meant)] := by
    have hinherited : Properties.inherited [] [(k.name, value)] = [(k.name, value)] := rfl
    rw [Properties.resolveSection, hinherited, List.mapM_cons, hexpand]
    rfl
  rw [Document.entries_eq_foldlM, List.foldlM_cons, Properties.layOver, hsection]
  rfl

/-! ### Loading it -/

namespace Settings

/-- What comes of one setting with a text as its value, the other settings being as they are by
default. -/
def ofOne (k : Setting) (value : String) : Except Fault Settings :=
  (({} : Draft).give k (.text value)).settings

/-- One entry that means a setting gives this setting and no other. -/
theorem outcome_single [Limits] {key : String} (hkey : Setting.ofKey? key = some k)
    (value : String) :
    (ofEntries ([(key, value)].map fun e => (.text e.1, .text e.2))).outcome = ofOne k value := by
  have htaken : takeEntry ({}, []) (.text key, .text value) =
      (({} : Draft).give k (.text value), []) := by
    simp only [takeEntry, Value.text?, Option.bind_some, hkey]
  rw [ofEntries, setEntries_texts, List.map_singleton, List.foldl_cons, List.foldl_nil, htaken]
  rfl

variable {folder : Storage.Folder} {path : String}

section Lines

variable (hline : IsLine value.toList) (htrimmed : IsTrimmed value.toList)

include hline htrimmed

/-- **Among the defaults** a value is taken as it stands. -/
theorem load_bare [Limits]
    (hread : folder.read path = .ok (Utf8.encode (oneSetting Properties.defaultName k value))) :
    (load folder path).outcome = (ofOne k value).mapError .invalid := by
  have hentries : (⟨[(k.name, value)], []⟩ : Document).entries = .ok [(k.name, value)] := rfl
  rw [load_of_read hread, ofContent_of_entries (ofLines_defaults hline htrimmed k) hentries,
    outcome_single k.ofKey?_name]

/-- **In its section** a value stands for the text whose doubled form it is. -/
theorem load_owned [Limits] {meant : List Char}
    (hread : folder.read path = .ok (Utf8.encode (oneSetting k.owner k value)))
    (hmeant : value.toList = doubled meant) :
    (load folder path).outcome = (ofOne k (String.ofList meant)).mapError .invalid := by
  rw [load_of_read hread,
    ofContent_of_entries (ofLines_section hline htrimmed k) (entries_section hmeant k),
    outcome_single k.ofKey?_key]

/-- A value that is no doubled form is a reference that leads nowhere. -/
theorem load_owned_unresolved [Limits]
    (hread : folder.read path = .ok (Utf8.encode (oneSetting k.owner k value)))
    (hplain : ∀ meant, value.toList ≠ doubled meant) :
    ∃ cause, (load folder path).outcome = .error (.unresolved cause) := by
  rw [load_of_read hread, ofContent_unresolved_iff]
  refine ⟨_, ofLines_section hline htrimmed k, ?_⟩
  intro hresolves
  obtain ⟨out, hout⟩ := hresolves _ (List.mem_singleton_self _) (k.name, value)
    (List.mem_singleton_self _)
  exact Properties.expand_alone_ne_ok hplain k.name maxDepth out hout

end Lines

/-! ### Values with percent signs -/

theorem percent_mem_lower (h : '%' ∈ value.toList) : '%' ∈ (Unicode.lower value).toList := by
  have hfrom (before s : List Char) (hs : '%' ∈ s) : '%' ∈ Unicode.lowerFrom before s := by
    induction s generalizing before with
    | nil => cases hs
    | cons c s ih =>
      rw [Unicode.lowerFrom, List.mem_append]
      rcases List.mem_cons.mp hs with rfl | hs
      · exact Or.inl (List.mem_singleton_self _)
      · exact Or.inr (ih _ hs)
  rw [Unicode.lower, String.toList_ofList]
  exact hfrom [] value.toList h

theorem percent_mem_upper (h : '%' ∈ value.toList) : '%' ∈ (Unicode.upper value).toList := by
  rw [Unicode.upper, String.toList_ofList, List.mem_flatMap]
  exact ⟨'%', h, List.mem_singleton_self _⟩

section Percent

variable (htrimmed : IsTrimmed value.toList) (hpercent : '%' ∈ value.toList)

include htrimmed hpercent

/-- No word with a percent sign means yes. -/
theorem truth_of_percent : truth (.text value) = false := by
  have hwords : ∀ word ∈ yesWords, '%' ∉ word.toList := by
    decide
  show yesWords.contains (Unicode.lower (trimText value)) = false
  rw [Bool.eq_false_iff, Ne, List.contains_iff_mem, trimText, htrimmed.trim_eq,
    String.ofList_toList]
  intro hword
  exact hwords _ hword (percent_mem_lower hpercent)

/-- No level has a percent sign in its name. -/
theorem level_of_percent :
    LogLevel.ofName? (Unicode.upper (trimText (textOf (.text value)))) = none := by
  have hwords : ∀ word ∈ levelWords, '%' ∉ word.toList := by
    decide
  show LogLevel.ofName? (Unicode.upper (trimText value)) = none
  rw [ofName?_eq_none_iff, trimText, htrimmed.trim_eq, String.ofList_toList]
  intro hword
  exact hwords _ hword (percent_mem_upper hpercent)

end Percent

/-- Of two values with percent signs, neither gives a level, and both switch off. -/
theorem ofOne_of_percent {other : String} (hk : k ≠ .logFile) (htrimmed : IsTrimmed value.toList)
    (hpercent : '%' ∈ value.toList) (htrimmed' : IsTrimmed other.toList)
    (hpercent' : '%' ∈ other.toList) : ofOne k value = ofOne k other := by
  have htruth : truth (.text value) = truth (.text other) := by
    rw [truth_of_percent htrimmed hpercent, truth_of_percent htrimmed' hpercent']
  cases k with
  | logFile => exact absurd rfl hk
  | logLevel =>
    simp only [ofOne, Draft.give, Draft.settings, level_of_percent htrimmed hpercent,
      level_of_percent htrimmed' hpercent']
  | commonNameFallback => simp only [ofOne, Draft.give, htruth]
  | wildcards => simp only [ofOne, Draft.give, htruth]
  | jsonLogging => simp only [ofOne, Draft.give, htruth]

/-- A value and the text whose doubled form it is give the same, unless they are paths with percent
signs. -/
theorem ofOne_of_doubled {meant : List Char} (htrimmed : IsTrimmed value.toList)
    (hmeant : value.toList = doubled meant) (h : '%' ∉ value.toList ∨ k ≠ .logFile) :
    ofOne k value = ofOne k (String.ofList meant) := by
  by_cases hpercent : '%' ∈ value.toList
  · have hk : k ≠ .logFile := h.resolve_left (not_not_intro hpercent)
    apply ofOne_of_percent hk htrimmed hpercent
    · rw [String.toList_ofList]
      rw [hmeant] at htrimmed
      refine ⟨?_, ?_⟩
      · rw [← Properties.head?_doubled]
        exact htrimmed.1
      · rw [← Properties.getLast?_doubled]
        exact htrimmed.2
    · rw [String.toList_ofList]
      rw [hmeant] at hpercent
      exact Properties.mem_of_mem_doubled hpercent
  · have hnone : '%' ∉ meant := by
      intro hmem
      rw [hmeant] at hpercent
      exact hpercent (Properties.mem_doubled hmem)
    rw [Properties.doubled_eq_self hnone] at hmeant
    rw [← hmeant, String.ofList_toList]

/-- Every setting but the level is given by every text. -/
theorem exists_ofOne (hk : k ≠ .logLevel) (value : String) : ∃ s, ofOne k value = .ok s := by
  cases k with
  | logLevel => exact absurd rfl hk
  | _ => exact ⟨_, rfl⟩

/-- Two paths of a log file are told apart. -/
theorem eq_of_ofOne_logFile {other : String} (h : ofOne .logFile value = ofOne .logFile other) :
    value = other :=
  congrArg Settings.logFile (Except.ok.inj h)

/-- When a value gives the same as the text whose doubled form it is. -/
theorem ofOne_agrees_iff (htrimmed : IsTrimmed value.toList) :
    (∀ s, ofOne k value = .ok s ↔
        ∃ meant, value.toList = doubled meant ∧ ofOne k (String.ofList meant) = .ok s) ↔
      '%' ∉ value.toList ∨ k = .logLevel ∨
        k ≠ .logFile ∧ ∃ meant, value.toList = doubled meant := by
  constructor
  · intro h
    by_cases hlevel : k = .logLevel
    · exact Or.inr (Or.inl hlevel)
    obtain ⟨s, hs⟩ := exists_ofOne hlevel value
    obtain ⟨meant, hmeant, hmade⟩ := (h s).mp hs
    by_cases hfile : k = .logFile
    · subst hfile
      have hsame : value = String.ofList meant := eq_of_ofOne_logFile (hs.trans hmade.symm)
      rw [hsame, String.toList_ofList] at hmeant ⊢
      exact Or.inl (Properties.percent_notMem_of_doubled hmeant.symm)
    · exact Or.inr (Or.inr ⟨hfile, meant, hmeant⟩)
  · intro h s
    have hclear : '%' ∉ value.toList ∨ k ≠ .logFile := by
      rcases h with h | rfl | ⟨h, -⟩
      · exact Or.inl h
      · exact Or.inr (by decide)
      · exact Or.inr h
    constructor
    · intro hs
      have hdoubled : ∃ meant, value.toList = doubled meant := by
        by_cases hpercent : '%' ∈ value.toList
        · rcases h with h | rfl | ⟨-, h⟩
          · exact absurd hpercent h
          · simp only [ofOne, Draft.give, Draft.settings, level_of_percent htrimmed hpercent] at hs
            cases hs
          · exact h
        · exact ⟨value.toList, (Properties.doubled_eq_self hpercent).symm⟩
      obtain ⟨meant, hmeant⟩ := hdoubled
      exact ⟨meant, hmeant, (ofOne_of_doubled htrimmed hmeant hclear).symm.trans hs⟩
    · rintro ⟨meant, hmeant, hs⟩
      exact (ofOne_of_doubled htrimmed hmeant hclear).trans hs

theorem mapError_eq_ok_iff {outcome : Except Fault Settings} {s : Settings} :
    outcome.mapError LoadFault.invalid = .ok s ↔ outcome = .ok s := by
  cases outcome with
  | error cause => exact iff_of_false (fun h => nomatch h) fun h => nomatch h
  | ok made => exact ⟨fun h => congrArg Except.ok (Except.ok.inj h), fun h => by rw [h]; rfl⟩

/-- **When the two spellings agree.**  Take a setting and a value on one line that neither begins
nor ends with a blank, a file that gives it among the defaults, and a file that gives it in its
section.  The first gives the setting with the value as it stands.  The second gives it with the
text whose doubled form the value is, and nothing where there is no such text.  The same settings
are loaded from the two, or none from either, exactly if there is no percent sign in the value, or
the setting is the level, or it is a switch and the percent signs are doubled. -/
theorem spellings_agree_iff [Limits] (k : Setting) (value : String) (bare owned : Storage.Folder)
    (path path' : String) (hline : IsLine value.toList) (htrimmed : IsTrimmed value.toList)
    (hbare : bare.read path =
      .ok (Utf8.encode (oneSetting Properties.defaultName k value)))
    (howned : owned.read path' = .ok (Utf8.encode (oneSetting k.owner k value))) :
    (∀ s, (load bare path).outcome = .ok s ↔ ofOne k value = .ok s) ∧
      (∀ s, (load owned path').outcome = .ok s ↔
        ∃ meant, value.toList = doubled meant ∧ ofOne k (String.ofList meant) = .ok s) ∧
      ((∀ s, (load bare path).outcome = .ok s ↔ (load owned path').outcome = .ok s) ↔
        '%' ∉ value.toList ∨ k = .logLevel ∨
          k ≠ .logFile ∧ ∃ meant, value.toList = doubled meant) := by
  have hfirst : ∀ s, (load bare path).outcome = .ok s ↔ ofOne k value = .ok s := by
    intro s
    rw [load_bare hline htrimmed hbare, mapError_eq_ok_iff]
  have hsecond : ∀ s, (load owned path').outcome = .ok s ↔
      ∃ meant, value.toList = doubled meant ∧ ofOne k (String.ofList meant) = .ok s := by
    intro s
    constructor
    · intro hs
      by_cases hplain : ∃ meant, value.toList = doubled meant
      · obtain ⟨meant, hmeant⟩ := hplain
        rw [load_owned hline htrimmed howned hmeant, mapError_eq_ok_iff] at hs
        exact ⟨meant, hmeant, hs⟩
      · obtain ⟨cause, hcause⟩ :=
          load_owned_unresolved hline htrimmed howned (not_exists.mp hplain)
        rw [hcause] at hs
        cases hs
    · rintro ⟨meant, hmeant, hs⟩
      rw [load_owned hline htrimmed howned hmeant, mapError_eq_ok_iff]
      exact hs
  refine ⟨hfirst, hsecond, ?_⟩
  simp only [hfirst, hsecond]
  exact ofOne_agrees_iff htrimmed

/-- The two spellings agree on a switch, although the value has percent signs: it is off with
both. -/
theorem spellings_agree_on_switch :
    (@load .usual (sampleFolder (oneSetting "DEFAULT" .wildcards "100%%")) "app.conf").outcome =
        .ok { wildcards := false } ∧
      (@load .usual (sampleFolder (oneSetting "verification" .wildcards "100%%"))
        "app.conf").outcome = .ok { wildcards := false } := by
  obtain ⟨hbare, -, hagree⟩ := @spellings_agree_iff .usual .wildcards "100%%"
    (sampleFolder (oneSetting "DEFAULT" .wildcards "100%%"))
    (sampleFolder (oneSetting "verification" .wildcards "100%%")) "app.conf" "app.conf"
    (by decide) (by decide) rfl rfl
  have hfirst := (hbare { wildcards := false }).mpr rfl
  have hsame := hagree.mpr (Or.inr (Or.inr ⟨by decide, "100%".toList, by decide⟩))
  exact ⟨hfirst, (hsame _).mp hfirst⟩

/-- A path of a log file with two percent signs: among the defaults both are kept, and in its
section one of them is left. -/
theorem spellings_differ :
    (@load .usual (sampleFolder (oneSetting "DEFAULT" .logFile "a%%b"))
        "app.conf").outcome.toOption = some { logFile := "a%%b" } ∧
      (@load .usual (sampleFolder (oneSetting "app" .logFile "a%%b"))
        "app.conf").outcome.toOption = some { logFile := "a%b" } := by
  decide +kernel

end Settings

end PeerName
