import Mathlib.Data.List.Nodup
import PeerName.Properties.Reference

/-!
# Options laid over others

Giving a name a value keeps the place of a name that is there already, and puts a new name at the
end.  Several options that are laid over others one after the other leave the old names where they
are, and the last value counts.

* `names` — the names of options, in order;
* `overlay` — options laid over others;
* `prefix_names_overlay`, `nodup_names_overlay` — the names after that;
* `lookup_overlay` — the value of a name that was laid over;
* `lookup_overlay_of_notMem` — the value of any other name;
* `forall₂_of_resolveSection` — the options of a section, each with its value;
* `Document.entries_eq`, `Document.exists_entries` — **the entries of a document**: the defaults,
  with the options of each section laid over.
-/

namespace PeerName.Properties

/-- The names of options, in order. -/
def names {α : Type} (options : List (String × α)) : List String := options.map Prod.fst

/-- Options laid over others, one after the other. -/
def overlay (options new : Options) : Options :=
  new.foldl (fun options o => putOption options o.1 o.2) options

variable {options new : Options} {name other value : String}

theorem mem_names_of_mem {α : Type} {options : List (String × α)} {o : String × α}
    (h : o ∈ options) : o.1 ∈ names options :=
  List.mem_map_of_mem h

theorem any_name_iff {α : Type} (options : List (String × α)) (name : String) :
    options.any (·.1 = name) = true ↔ name ∈ names options := by
  simp only [List.any_eq_true, decide_eq_true_eq, names, List.mem_map]

theorem exists_of_mem_names (h : name ∈ names options) : ∃ value, (name, value) ∈ options := by
  obtain ⟨o, hmem, rfl⟩ := List.mem_map.mp h
  exact ⟨o.2, hmem⟩

/-- A name has no value exactly if it is not there. -/
theorem lookup_eq_none_iff_notMem {α : Type} {options : List (String × α)} {name : String} :
    options.lookup name = none ↔ name ∉ names options := by
  rw [List.lookup_eq_none_iff, names, List.mem_map, not_exists]
  refine forall_congr' fun o => ?_
  rw [not_and, bne_iff_ne, ne_comm]

/-! ### One option -/

theorem names_putOption (options : Options) (name value : String) :
    names (putOption options name value) =
      if name ∈ names options then names options else names options ++ [name] := by
  rw [putOption]
  by_cases h : name ∈ names options
  · rw [if_pos ((any_name_iff options name).mpr h), if_pos h, names, names, List.map_map]
    apply List.map_congr_left
    intro o _
    simp only [Function.comp_apply]
    split
    next heq => exact heq.symm
    next => rfl
  · rw [if_neg (fun hany => h ((any_name_iff options name).mp hany)), if_neg h]
    simp only [names, List.map_append, List.map_cons, List.map_nil]

theorem nodup_names_putOption (h : (names options).Nodup) (name value : String) :
    (names (putOption options name value)).Nodup := by
  rw [names_putOption]
  split
  · exact h
  next hnew =>
    apply List.Nodup.append h (List.nodup_singleton name)
    simpa only [List.disjoint_singleton] using hnew

theorem lookup_map_self {options : Options} (h : name ∈ names options) (value : String) :
    (options.map fun o => if o.1 = name then (name, value) else o).lookup name = some value := by
  induction options with
  | nil => cases h
  | cons o rest ih =>
    by_cases ho : o.1 = name
    · simp [ho]
    · have hrest : name ∈ names rest := by
        simpa [names, Ne.symm ho] using h
      rw [List.map_cons, if_neg ho, List.lookup_cons, beq_false_of_ne (Ne.symm ho)]
      exact ih hrest

theorem lookup_map_of_ne (hne : other ≠ name) (options : Options) (value : String) :
    (options.map fun o => if o.1 = name then (name, value) else o).lookup other =
      options.lookup other := by
  induction options with
  | nil => rfl
  | cons o rest ih =>
    by_cases ho : o.1 = name
    · have hskip : (other == o.1) = false := beq_false_of_ne (ho ▸ hne)
      rw [List.map_cons, if_pos ho, List.lookup_cons, List.lookup_cons, beq_false_of_ne hne, hskip,
        ih]
    · rw [List.map_cons, if_neg ho, List.lookup_cons, List.lookup_cons, ih]

/-- A name that has been given a value has this value. -/
theorem lookup_putOption_self (options : Options) (name value : String) :
    (putOption options name value).lookup name = some value := by
  rw [putOption]
  by_cases h : name ∈ names options
  · rw [if_pos ((any_name_iff options name).mpr h)]
    exact lookup_map_self h value
  · rw [if_neg (fun hany => h ((any_name_iff options name).mp hany)), List.lookup_append]
    simp [lookup_eq_none_iff_notMem.mpr h]

/-- Any other name keeps its value. -/
theorem lookup_putOption_of_ne (hne : other ≠ name) (options : Options) (value : String) :
    (putOption options name value).lookup other = options.lookup other := by
  rw [putOption]
  split
  · exact lookup_map_of_ne hne options value
  · rw [List.lookup_append, List.lookup_cons, beq_false_of_ne hne]
    exact Option.or_none

theorem mem_putOption {options : Options} {name value : String} {o : String × String}
    (h : o ∈ putOption options name value) : o ∈ options ∨ o = (name, value) := by
  rw [putOption] at h
  split at h
  · obtain ⟨p, hp, rfl⟩ := List.mem_map.mp h
    split
    · exact Or.inr rfl
    · exact Or.inl hp
  · rwa [List.mem_append, List.mem_singleton] at h

/-! ### Several options -/

@[simp]
theorem overlay_cons (options : Options) (o : String × String) (new : Options) :
    overlay options (o :: new) = overlay (putOption options o.1 o.2) new :=
  rfl

/-- The old names stay where they are. -/
theorem prefix_names_overlay (options new : Options) :
    names options <+: names (overlay options new) := by
  induction new generalizing options with
  | nil => exact List.prefix_rfl
  | cons o rest ih =>
    apply List.IsPrefix.trans _ (ih (putOption options o.1 o.2))
    rw [names_putOption]
    split
    · exact List.prefix_rfl
    · exact List.prefix_append _ _

theorem mem_names_overlay_iff (options new : Options) (name : String) :
    name ∈ names (overlay options new) ↔ name ∈ names options ∨ name ∈ names new := by
  induction new generalizing options with
  | nil => simp [overlay, names]
  | cons o rest ih =>
    rw [overlay_cons, ih, names_putOption]
    have hnames : names (o :: rest) = o.1 :: names rest := rfl
    rw [hnames, List.mem_cons]
    split
    next hold =>
      constructor
      · intro h
        rcases h with h | h
        · exact Or.inl h
        · exact Or.inr (Or.inr h)
      · intro h
        rcases h with h | rfl | h
        · exact Or.inl h
        · exact Or.inl hold
        · exact Or.inr h
    next => rw [List.mem_append, List.mem_singleton, or_assoc]

theorem nodup_names_overlay (h : (names options).Nodup) (new : Options) :
    (names (overlay options new)).Nodup := by
  induction new generalizing options with
  | nil => exact h
  | cons o rest ih =>
    rw [overlay_cons]
    exact ih (nodup_names_putOption h o.1 o.2)

/-- A name that is not laid over keeps its value. -/
theorem lookup_overlay_of_notMem (h : name ∉ names new) (options : Options) :
    (overlay options new).lookup name = options.lookup name := by
  induction new generalizing options with
  | nil => rfl
  | cons o rest ih =>
    have hname : name ≠ o.1 ∧ name ∉ names rest := by
      simpa [names] using h
    rw [overlay_cons, ih hname.2, lookup_putOption_of_ne hname.1]

/-- **A name that is laid over gets its new value**, if it is given only one. -/
theorem lookup_overlay (hmem : (name, value) ∈ new)
    (honly : ∀ v, (name, v) ∈ new → v = value) (options : Options) :
    (overlay options new).lookup name = some value := by
  induction new generalizing options with
  | nil => cases hmem
  | cons o rest ih =>
    have hrest : ∀ v, (name, v) ∈ rest → v = value := by
      intro v hv
      exact honly v (List.mem_cons_of_mem _ hv)
    rw [overlay_cons]
    by_cases hlater : name ∈ names rest
    · obtain ⟨v, hv⟩ := exists_of_mem_names hlater
      obtain rfl := hrest v hv
      exact ih hv hrest _
    · have hfirst : (name, value) = o := by
        rcases List.mem_cons.mp hmem with h | h
        · exact h
        · exact absurd (mem_names_of_mem h) hlater
      subst hfirst
      rw [lookup_overlay_of_notMem hlater, lookup_putOption_self]

theorem mem_overlay {options new : Options} {o : String × String}
    (h : o ∈ overlay options new) : o ∈ options ∨ o ∈ new := by
  induction new generalizing options with
  | nil => exact Or.inl h
  | cons first rest ih =>
    rcases ih h with h | h
    · rcases mem_putOption h with h | rfl
      · exact Or.inl h
      · exact Or.inr List.mem_cons_self
    · exact Or.inr (List.mem_cons_of_mem first h)

theorem overlay_append (options first second : Options) :
    overlay options (first ++ second) = overlay (overlay options first) second :=
  List.foldl_append

/-! ### The entries of a document -/

/-- The options of a section under the name of the section, a dot and their own name. -/
def qualify (owner : String) (options : Options) : Options :=
  options.map fun o => (owner ++ "." ++ o.1, o.2)

theorem overlay_qualify (options : Options) (owner : String) (new : Options) :
    new.foldl (fun options o => putOption options (owner ++ "." ++ o.1) o.2) options =
      overlay options (qualify owner new) := by
  rw [overlay, qualify, List.foldl_map]

/-- What each member of a list gives, where each gives something. -/
theorem forall₂_of_mapM {α β ε : Type} {f : α → Except ε β} {as : List α} {bs : List β}
    (h : as.mapM f = .ok bs) : List.Forall₂ (fun a b => f a = .ok b) as bs := by
  induction as generalizing bs with
  | nil =>
    obtain rfl := Except.ok.inj h
    exact .nil
  | cons a rest ih =>
    rw [List.mapM_cons] at h
    cases ha : f a with
    | error cause =>
      rw [ha] at h
      cases h
    | ok b =>
      rw [ha] at h
      cases hrest : rest.mapM f with
      | error cause =>
        rw [hrest] at h
        cases h
      | ok more =>
        rw [hrest] at h
        obtain rfl := Except.ok.inj h
        exact .cons ha (ih hrest)

theorem exists_of_forall₂ {α β : Type} {R : α → β → Prop} {as : List α} {bs : List β} {a : α}
    (h : List.Forall₂ R as bs) (ha : a ∈ as) : ∃ b ∈ bs, R a b := by
  induction h with
  | nil => cases ha
  | @cons first b rest bs hfirst _ ih =>
    rcases List.mem_cons.mp ha with rfl | ha
    · exact ⟨b, List.mem_cons_self, hfirst⟩
    · obtain ⟨c, hc, hR⟩ := ih ha
      exact ⟨c, List.mem_cons_of_mem _ hc, hR⟩

theorem exists_mapM {α β ε : Type} {f : α → Except ε β} {as : List α}
    (h : ∀ a ∈ as, ∃ b, f a = .ok b) : ∃ bs, as.mapM f = .ok bs := by
  induction as with
  | nil => exact ⟨[], rfl⟩
  | cons a rest ih =>
    obtain ⟨b, hb⟩ := h a List.mem_cons_self
    obtain ⟨bs, hbs⟩ := ih fun c hc => h c (List.mem_cons_of_mem a hc)
    refine ⟨b :: bs, ?_⟩
    rw [List.mapM_cons, hb, hbs]
    rfl

/-- The options of a section keep their names, and each has the value that its references give. -/
theorem forall₂_of_resolveSection {defaults own found : Options} {owner : String}
    (h : resolveSection defaults owner own = .ok found) :
    List.Forall₂ (fun o r => r.1 = o.1 ∧
      (expand (inherited defaults own) maxDepth o.2.toList).map String.ofList = .ok r.2)
      (inherited defaults own) found := by
  rw [resolveSection] at h
  apply List.Forall₂.imp _ (forall₂_of_mapM h)
  intro o r hr
  cases hexpand : expand (inherited defaults own) maxDepth o.2.toList with
  | error flaw =>
    rw [hexpand] at hr
    cases hr
  | ok value =>
    rw [hexpand] at hr
    obtain rfl := Except.ok.inj hr
    exact ⟨rfl, rfl⟩

theorem names_of_resolveSection {defaults own found : Options} {owner : String}
    (h : resolveSection defaults owner own = .ok found) :
    names found = names (inherited defaults own) := by
  have hall : List.Forall₂ (fun (o r : String × String) => r.1 = o.1) (inherited defaults own)
      found := (forall₂_of_resolveSection h).imp fun _ _ hr => hr.1
  clear h
  generalize inherited defaults own = options at hall
  induction hall with
  | nil => rfl
  | cons hr _ ih =>
    simp only [names, List.map_cons] at ih ⊢
    rw [hr, ih]

/-- The options of a section laid over entries, under the name of the section. -/
def layOver (defaults entries : Options) (s : String × Options) : Except Unresolved Options :=
  (resolveSection defaults s.1 s.2).map fun found => overlay entries (qualify s.1 found)

theorem Document.entries_eq_foldlM (doc : Document) :
    doc.entries = doc.sections.foldlM (layOver doc.defaults) doc.defaults := by
  have hstep : (fun (entries : Options) (s : String × Options) =>
      (resolveSection doc.defaults s.1 s.2).bind fun found => Except.ok
        (found.foldl (fun entries o => putOption entries (s.1 ++ "." ++ o.1) o.2) entries)) =
      layOver doc.defaults := by
    funext entries s
    rw [layOver]
    cases resolveSection doc.defaults s.1 s.2 with
    | error cause => rfl
    | ok found => exact congrArg Except.ok (overlay_qualify entries s.1 found)
  rw [← hstep]
  rfl

theorem exists_of_foldlM_layOver {defaults before entries : Options}
    {sections : List (String × Options)}
    (h : sections.foldlM (layOver defaults) before = .ok entries) :
    ∃ found : List (String × Options),
      List.Forall₂ (fun s f => f.1 = s.1 ∧ resolveSection defaults s.1 s.2 = .ok f.2)
        sections found ∧
      entries = overlay before (found.flatMap fun f => qualify f.1 f.2) := by
  induction sections generalizing before with
  | nil =>
    obtain rfl := Except.ok.inj h
    exact ⟨[], .nil, rfl⟩
  | cons s rest ih =>
    rw [List.foldlM_cons, layOver] at h
    cases hs : resolveSection defaults s.1 s.2 with
    | error cause =>
      rw [hs] at h
      cases h
    | ok options =>
      rw [hs] at h
      obtain ⟨found, hfound, hentries⟩ := ih h
      refine ⟨(s.1, options) :: found, .cons ⟨rfl, hs⟩ hfound, ?_⟩
      rw [hentries, List.flatMap_cons, overlay_append]

/-- **The entries of a document** are the defaults, with the options of each section laid over. -/
theorem Document.entries_eq {doc : Document} {entries : Options} (h : doc.entries = .ok entries) :
    ∃ found : List (String × Options),
      List.Forall₂ (fun s f => f.1 = s.1 ∧ resolveSection doc.defaults s.1 s.2 = .ok f.2)
        doc.sections found ∧
      entries = overlay doc.defaults (found.flatMap fun f => qualify f.1 f.2) := by
  rw [Document.entries_eq_foldlM] at h
  exact exists_of_foldlM_layOver h

/-- A document whose sections can be resolved has entries. -/
theorem Document.exists_entries {doc : Document}
    (h : ∀ p ∈ doc.sections, ∃ found, resolveSection doc.defaults p.1 p.2 = .ok found) :
    ∃ entries, doc.entries = .ok entries := by
  rw [Document.entries_eq_foldlM]
  generalize doc.sections = sections at h
  have hfold (before : Options) :
      ∃ entries, sections.foldlM (layOver doc.defaults) before = .ok entries := by
    induction sections generalizing before with
    | nil => exact ⟨before, rfl⟩
    | cons p rest ih =>
      obtain ⟨found, hfound⟩ := h p List.mem_cons_self
      obtain ⟨entries, hentries⟩ := ih (fun q hq => h q (List.mem_cons_of_mem p hq))
        (overlay before (qualify p.1 found))
      refine ⟨entries, ?_⟩
      rw [List.foldlM_cons, layOver, hfound]
      exact hentries
  exact hfold doc.defaults

end PeerName.Properties
