import PeerName.Proofs.Storage.Growth

/-!
# Places without a file

Where there is no file there is none later on, as long as nothing is written to this very place:
making directories makes no files, and what is written elsewhere makes no file here.

* `Tree.file_of_insert` — a file that is found after an entry was put elsewhere;
* `Folder.Fileless` — a place without a file;
* `Fileless.change` — what a change of the tree leaves;
* `Fileless.put`, `Fileless.ensureParent` — what the operations on a folder leave.
-/

namespace PeerName.Storage

namespace Tree

variable {t : Tree} {names other : List (List Char)} {e : Entry} {content : List UInt8}

/-- A file that is found after an entry was put elsewhere was there before.  A directory makes no
file even at its own place. -/
theorem file_of_insert (hne : other = names → e = .directory)
    (h : ((insert e names t).find? other).map entry = some (.file content)) :
    (t.find? other).map entry = some (.file content) := by
  -- on the names of the new entry, with the tree that is left below the ones passed
  induction names generalizing t other with
  | nil =>
    cases e with
    | file old =>
      cases other with
      | nil => exact absurd (hne rfl) (fun h => nomatch h)
      | cons first more => cases h
    | directory =>
      cases other with
      | nil => cases h
      | cons first more =>
        rw [find?_cons] at h ⊢
        exact h
  | cons name rest ih =>
    cases other with
    | nil => cases h
    | cons first more =>
      rw [insert, find?_cons, children] at h
      rw [find?_cons]
      by_cases hfirst : first = name
      · subst hfirst
        rw [lookup_setChild_self] at h
        have hbelow := ih (fun heq => hne (heq ▸ rfl)) h
        cases hchild : t.children.lookup first with
        | none =>
          -- there is nothing below a directory that has just been made
          rw [hchild] at hbelow
          cases more with
          | nil => cases hbelow
          | cons second others => cases hbelow
        | some child =>
          rw [hchild] at hbelow
          exact hbelow
      · rw [lookup_setChild_of_ne hfirst] at h
        exact h

end Tree

namespace Folder

variable {f g : Folder} {p q : Place} {e : Entry} {path : String}

/-- There is no file at a place. -/
def Fileless (f : Folder) (p : Place) : Prop := ∀ content, f.entryAt p ≠ some (.file content)

theorem Fileless.contentAt (h : f.Fileless p) : f.contentAt p = [] := by
  rw [Folder.contentAt]
  cases hentry : f.entryAt p with
  | none => rfl
  | some found =>
    cases found with
    | file content => exact absurd hentry (h content)
    | directory => rfl

/-- Where there is no file there is none after a change of a tree that makes no new files there. -/
theorem Fileless.change {new : Tree → Tree} (h : f.Fileless p)
    (hnew : p.absolute = q.absolute → ∀ (t : Tree) (content : List UInt8),
      ((new t).find? p.names).map Tree.entry = some (.file content) →
        (t.find? p.names).map Tree.entry = some (.file content)) :
    (f.change q new).Fileless p := by
  intro content hfile
  have hgiven : p.isGiven ≠ true := not_isGiven_of_file hfile
  rw [entryAt_of_not_isGiven hgiven, tree_change] at hfile
  apply h content
  rw [entryAt_of_not_isGiven hgiven]
  by_cases habsolute : p.absolute = q.absolute
  · rw [if_pos habsolute] at hfile
    rw [habsolute]
    exact hnew habsolute _ content hfile
  · rwa [if_neg habsolute] at hfile

/-- What is put elsewhere makes no file here, and a directory makes none anywhere. -/
theorem Fileless.put (h : f.Fileless p) (hne : p = q → e = .directory) :
    (f.put q e).Fileless p :=
  h.change fun habsolute _ _ =>
    Tree.file_of_insert fun hnames => hne (Place.eq_of_names habsolute hnames)

theorem Fileless.append (h : f.Fileless p) (hne : p ≠ q) (content : List UInt8) :
    (f.append q content).Fileless p :=
  h.put fun heq => absurd heq hne

/-! ### Directories -/

theorem Fileless.makeDirectory (h : f.Fileless p) (hmade : f.makeDirectory path = .ok g) :
    g.Fileless p := by
  rw [Folder.makeDirectory] at hmade
  split at hmade
  · cases hmade
  split at hmade
  · cases hmade
  split at hmade
  · cases hmade
  obtain rfl := Except.ok.inj hmade
  exact h.put fun _ => rfl

/-- Making directories makes no file. -/
theorem Fileless.ensureParent (h : f.Fileless p) (path : String) :
    (f.ensureParent path).1.Fileless p := by
  apply ensureParent_keeps (P := fun g => g.Fileless p) _ path h
  intro g k name hvacant hmade
  exact hvacant.makeDirectory hmade

end Folder

end PeerName.Storage
