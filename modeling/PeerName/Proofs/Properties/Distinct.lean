import PeerName.Properties.Reader
import PeerName.Proofs.Properties.Overlay

/-!
# The names in a document

No section of a document is there twice, and no section has an option twice, the defaults
included.  Every line keeps it so: a header that opens a section again and an option that is there
already are faults, and the other lines bring no names.

* `Document.Distinct`, `Draft.Distinct` — no name is there twice;
* `Draft.Distinct.readLine` — what a line keeps;
* `Document.distinct_ofLines` — **the names in a document that has been read**.
-/

namespace PeerName.Properties

/-- No section is there twice, and no option is there twice in its section. -/
structure Document.Distinct (doc : Document) : Prop where
  defaults : (names doc.defaults).Nodup
  sections : (names doc.sections).Nodup
  options : ∀ s ∈ doc.sections, (names s.2).Nodup

/-- The same of what has been read so far. -/
structure Draft.Distinct (d : Draft) : Prop where
  defaults : (names d.defaults).Nodup
  sections : (names d.sections).Nodup
  options : ∀ s ∈ d.sections, (names s.2).Nodup

variable {d e : Draft} {number : Nat} {line value : List Char} {owner name : String}

/-- Two options of one name are the same option, where no name is there twice. -/
theorem eq_of_mem_of_nodup {α : Type} {options : List (String × α)} (h : (names options).Nodup)
    {a b : α} (ha : (name, a) ∈ options) (hb : (name, b) ∈ options) : a = b := by
  have hpair := List.inj_on_of_nodup_map h ha hb rfl
  exact (Prod.mk.inj hpair).2

theorem mem_of_lookup {α : Type} {options : List (String × α)} {a : α}
    (h : options.lookup name = some a) : (name, a) ∈ options := by
  obtain ⟨front, back, rfl, -⟩ := List.lookup_eq_some_iff.mp h
  simp

/-- Changing the options of a section changes no name of a section. -/
theorem names_map_section (sections : List (String × OpenOptions)) (name : String)
    (change : OpenOptions → OpenOptions) :
    names (sections.map fun s => if s.1 = name then (s.1, change s.2) else s) =
      names sections := by
  rw [names, names, List.map_map]
  apply List.map_congr_left
  intro s _
  simp only [Function.comp_apply]
  split <;> rfl

namespace Draft.Distinct

theorem openOptions (h : d.Distinct) : (names d.openOptions).Nodup := by
  rw [Draft.openOptions]
  split
  · exact List.nodup_nil
  next name _ =>
    split
    · exact h.defaults
    · cases hlookup : d.sections.lookup name with
      | none => exact List.nodup_nil
      | some options => exact h.options _ (mem_of_lookup hlookup)

/-- The open section may get any options whose names are not there twice. -/
theorem update (h : d.Distinct) {change : OpenOptions → OpenOptions}
    (hchange : (names (change d.openOptions)).Nodup) : (d.update change).Distinct := by
  rw [Draft.update]
  rw [Draft.openOptions] at hchange
  cases hcurrent : d.current with
  | none => exact h
  | some name =>
    simp only [hcurrent] at hchange ⊢
    split
    next hdefault =>
      rw [if_pos hdefault] at hchange
      exact ⟨hchange, h.sections, h.options⟩
    next hother =>
      rw [if_neg hother] at hchange
      refine ⟨h.defaults, ?_, ?_⟩
      · rw [names_map_section]
        exact h.sections
      · intro s hs
        obtain ⟨⟨found, options⟩, hmem, rfl⟩ := List.mem_map.mp hs
        by_cases hfound : found = name
        · subst hfound
          have hlookup : d.sections.lookup found = some options := by
            cases hlookup : d.sections.lookup found with
            | none =>
              rw [List.lookup_eq_none_iff] at hlookup
              exact absurd (hlookup _ hmem) (by simp)
            | some first =>
              rw [eq_of_mem_of_nodup h.sections hmem (mem_of_lookup hlookup)]
          rw [hlookup] at hchange
          simpa using hchange
        · simpa only [if_neg hfound] using h.options _ hmem

/-- A line that continues a value brings no name. -/
theorem extend (h : d.Distinct) (line : List Char) : (d.extend line).Distinct := by
  rw [Draft.extend]
  split
  · exact h
  next option _ =>
    apply h.update
    have hnames : names (d.openOptions.map fun o =>
        if o.1 = option then (o.1, o.2 ++ [line]) else o) = names d.openOptions := by
      rw [names, names, List.map_map]
      apply List.map_congr_left
      intro o _
      simp only [Function.comp_apply]
      split <;> rfl
    rw [hnames]
    exact h.openOptions

theorem note (h : d.Distinct) (number : Nat) (line : List Char) : (d.note number line).Distinct :=
  ⟨h.defaults, h.sections, h.options⟩

/-- A header opens a section that was not there, or goes back to the defaults. -/
theorem enter (h : d.Distinct) (henter : d.enter number name = .ok e) : e.Distinct := by
  rw [Draft.enter] at henter
  split at henter
  · obtain rfl := Except.ok.inj henter
    exact ⟨h.defaults, h.sections, h.options⟩
  · split at henter
    · cases henter
    next hnew =>
      obtain rfl := Except.ok.inj henter
      rw [any_name_iff] at hnew
      refine ⟨h.defaults, ?_, ?_⟩
      · show (names (d.sections ++ [(name, [])])).Nodup
        rw [names, List.map_append]
        apply List.Nodup.append h.sections (List.nodup_singleton name)
        simpa using hnew
      · intro s hs
        rcases List.mem_append.mp hs with hs | hs
        · exact h.options s hs
        · obtain rfl := List.mem_singleton.mp hs
          exact List.nodup_nil

/-- An option that is added was not there. -/
theorem addOption (h : d.Distinct) (hadd : d.addOption number owner name value = .ok e) :
    e.Distinct := by
  rw [Draft.addOption] at hadd
  split at hadd
  · cases hadd
  next hnew =>
    rw [any_name_iff] at hnew
    have hupdated : (d.update (· ++ [(name, [value])])).Distinct := by
      apply h.update
      rw [names, List.map_append]
      apply List.Nodup.append h.openOptions (List.nodup_singleton name)
      simpa using hnew
    obtain rfl := Except.ok.inj hadd
    exact ⟨hupdated.defaults, hupdated.sections, hupdated.options⟩

theorem readStatement (h : d.Distinct) (hread : d.readStatement number line value = .ok e) :
    e.Distinct := by
  rw [Draft.readStatement] at hread
  split at hread
  · exact h.enter hread
  · split at hread
    · cases hread
    · split at hread
      · obtain rfl := Except.ok.inj hread
        exact h.note number line
      next optionName _ _ =>
        dsimp only at hread
        cases hempty : optionName.isEmpty with
        | true =>
          rw [hempty, if_pos rfl] at hread
          exact (h.note number line).addOption hread
        | false =>
          rw [hempty, if_neg Bool.false_ne_true] at hread
          exact h.addOption hread

/-- **Every line keeps the names apart.** -/
theorem readLine (h : d.Distinct) (hread : d.readLine number line = .ok e) : e.Distinct := by
  rw [Draft.readLine] at hread
  split at hread
  · obtain rfl := Except.ok.inj hread
    exact h
  · split at hread
    · obtain rfl := Except.ok.inj hread
      exact h.extend []
    · split at hread
      · obtain rfl := Except.ok.inj hread
        exact h.extend _
      · have hindented (indent : Nat) : ({ d with indent } : Draft).Distinct :=
          ⟨h.defaults, h.sections, h.options⟩
        exact (hindented _).readStatement hread

theorem readLines {lines : List (List Char)} (h : d.Distinct)
    (hread : d.readLines number lines = .ok e) : e.Distinct := by
  induction lines generalizing d number with
  | nil =>
    obtain rfl := Except.ok.inj hread
    exact h
  | cons line rest ih =>
    rw [Draft.readLines] at hread
    cases hline : d.readLine number line with
    | error fault =>
      rw [hline] at hread
      cases hread
    | ok next =>
      rw [hline] at hread
      exact ih (h.readLine hline) hread

end Draft.Distinct

theorem names_closeOptions (options : OpenOptions) :
    names (closeOptions options) = names options := by
  simp only [names, closeOptions, List.map_map, Function.comp_def]

/-- **No name is there twice in a document that has been read.** -/
theorem Document.distinct_ofLines {source : Text.Lines} {doc : Document}
    (h : Document.ofLines source = .ok doc) : doc.Distinct := by
  rw [Document.ofLines] at h
  cases hread : ({} : Draft).readLines 1 source.lines with
  | error cause =>
    rw [hread] at h
    cases h
  | ok d =>
    rw [hread] at h
    cases hfault : source.fault with
    | some cause =>
      rw [hfault] at h
      cases h
    | none =>
      rw [hfault] at h
      dsimp only at h
      split at h
      · obtain rfl := Except.ok.inj h
        have hempty : ({} : Draft).Distinct :=
          ⟨List.nodup_nil, List.nodup_nil, fun s hs => nomatch hs⟩
        have hd := hempty.readLines hread
        refine ⟨?_, ?_, ?_⟩
        · rw [Draft.document, names_closeOptions]
          exact hd.defaults
        · have hnames : names d.document.sections = names d.sections := by
            simp only [names, Draft.document, List.map_map, Function.comp_def]
          rw [hnames]
          exact hd.sections
        · intro s hs
          obtain ⟨found, hfound, rfl⟩ := List.mem_map.mp hs
          rw [names_closeOptions]
          exact hd.options found hfound
      · cases h

end PeerName.Properties
