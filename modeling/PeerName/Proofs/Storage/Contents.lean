import PeerName.Proofs.Storage.Vacancy

/-!
# What files hold

Adding to the end of a file changes what this file holds, and no other file.  Making directories
changes no file at all.

* `Folder.SameFile` — a place at which there is the same file in two folders, or none in either;
* `ensureParent_sameFile` — making directories;
* `contentAt_append`, `fileless_append_iff` — **adding to a file**.
-/

namespace PeerName.Storage.Folder

variable {f g : Folder} {p q : Place}

/-- There is the same file at a place in two folders, or none in either. -/
def SameFile (p : Place) (f g : Folder) : Prop :=
  ∀ content, g.entryAt p = some (.file content) ↔ f.entryAt p = some (.file content)

theorem fileless_or_file (f : Folder) (p : Place) :
    f.Fileless p ∨ ∃ content, f.entryAt p = some (.file content) := by
  cases hentry : f.entryAt p with
  | none => exact Or.inl fun content h => nomatch hentry.symm.trans h
  | some entry =>
    cases entry with
    | file content => exact Or.inr ⟨content, rfl⟩
    | directory => exact Or.inl fun content h => nomatch hentry.symm.trans h

theorem SameFile.fileless_iff (h : SameFile p f g) : g.Fileless p ↔ f.Fileless p :=
  forall_congr' fun content => not_congr (h content)

theorem contentAt_of_file {content : List UInt8} (h : f.entryAt p = some (.file content)) :
    f.contentAt p = content := by
  rw [contentAt, h]

theorem SameFile.contentAt_eq (h : SameFile p f g) : g.contentAt p = f.contentAt p := by
  rcases f.fileless_or_file p with hfileless | ⟨content, hfile⟩
  · rw [hfileless.contentAt, (h.fileless_iff.mpr hfileless).contentAt]
  · rw [contentAt_of_file hfile, contentAt_of_file ((h content).mpr hfile)]

/-- A file stays what it is while the folder grows elsewhere, if none comes up where none was. -/
theorem Grows.sameFile (h : Grows q f g) (hne : p ≠ q) (hfileless : f.Fileless p → g.Fileless p) :
    SameFile p f g := by
  intro content
  constructor
  · intro hafter
    rcases f.fileless_or_file p with hbefore | ⟨old, hold⟩
    · exact absurd hafter (hfileless hbefore content)
    · have hsame := h.file p old hne hold
      rw [hafter] at hsame
      rw [hold, ← hsame]
  · exact h.file p content hne

/-- Making directories changes no file. -/
theorem ensureParent_sameFile (f : Folder) (path : String) (p : Place) :
    SameFile p f (f.ensureParent path).1 := by
  -- the place that may change can be chosen in the other tree
  have hne : p ≠ ⟨!p.absolute, p.reversed⟩ := by
    intro h
    have habsolute := congrArg Place.absolute h
    cases hcase : p.absolute <;> rw [hcase] at habsolute <;> cases habsolute
  exact (ensureParent_grows f path _).sameFile hne fun h => h.ensureParent path

theorem append_sameFile (h : f.Open q) (hne : p ≠ q) (content : List UInt8) :
    SameFile p f (f.append q content) :=
  (append_grows h content).sameFile hne fun hp => hp.append hne content

theorem entryAt_append (h : f.Open q) (content : List UInt8) :
    (f.append q content).entryAt q = some (.file (f.contentAt q ++ content)) :=
  entryAt_put_self h.not_isGiven f _

/-- **What is added to a file comes behind what it holds**, and no other file changes. -/
theorem contentAt_append (h : f.Open q) (content : List UInt8) (p : Place) :
    (f.append q content).contentAt p = f.contentAt p ++ if p = q then content else [] := by
  by_cases hpq : p = q
  · subst hpq
    rw [if_pos rfl, contentAt_of_file (entryAt_append h content)]
  · rw [if_neg hpq, List.append_nil, (append_sameFile h hpq content).contentAt_eq]

/-- **There is a file where something has been added**, and else where there was one. -/
theorem fileless_append_iff (h : f.Open q) (content : List UInt8) (p : Place) :
    (f.append q content).Fileless p ↔ f.Fileless p ∧ p ≠ q := by
  by_cases hpq : p = q
  · subst hpq
    constructor
    · intro hfileless
      exact absurd (entryAt_append h content) (hfileless _)
    · intro hfileless
      exact absurd rfl hfileless.2
  · rw [(append_sameFile h hpq content).fileless_iff]
    exact (and_iff_left hpq).symm

end PeerName.Storage.Folder
