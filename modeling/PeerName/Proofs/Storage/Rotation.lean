import PeerName.Proofs.Storage.Contents
import PeerName.Storage.Rotation

/-!
# What is left when a log file is set aside

A line that does not fill its file is added to the end of this, and nothing else happens.  One that
fills it moves files about, but only among the places where the log file is set aside: where there
is no file there is none afterwards, unless this is the log file or lies at one of these places or
below.

* `Tree.file_of_erase`, `Tree.file_of_plant` — a file that is found after a tree was taken from one
  place, or put to another; `Tree.find?_erase_beside`, `Tree.find?_plant_beside` — what is found
  under another name in the same directory;
* `Place.IsAbove`, `Place.Beside` — one place is another, or lies above it; or it has another name
  in the same directory;
* `Fileless.moveTo`, `Fileless.setAside` — where moving files makes none;
* `treeAt_moveTo`, `entryAt_older` — where what is moved is found, and what is set aside;
* `Folder.addLine_of_room`, `Folder.addLine_of_full` — **a line for which there is room**, and one
  for which there is none;
* `Fileless.addLine` — **any line**.
-/

namespace PeerName.Storage

namespace Tree

variable {t new : Tree} {name : List Char} {names other : List (List Char)}
  {content : List UInt8}

theorem lookup_filter_of_ne {key : List Char} (h : key ≠ name) (l : List (List Char × Tree)) :
    (l.filter fun child => child.1 != name).lookup key = l.lookup key := by
  induction l with
  | nil => rfl
  | cons pair rest ih =>
    obtain ⟨first, old⟩ := pair
    by_cases hfirst : first = name
    · rw [List.filter_cons_of_neg (by simp [hfirst]), ih, List.lookup_cons,
        beq_false_of_ne (hfirst ▸ h)]
    · rw [List.filter_cons_of_pos (by simp [hfirst]), List.lookup_cons, List.lookup_cons, ih]

theorem lookup_filter_self (name : List Char) (l : List (List Char × Tree)) :
    (l.filter fun child => child.1 != name).lookup name = none := by
  induction l with
  | nil => rfl
  | cons pair rest ih =>
    obtain ⟨first, old⟩ := pair
    by_cases hfirst : first = name
    · rw [List.filter_cons_of_neg (by simp [hfirst]), ih]
    · rw [List.filter_cons_of_pos (by simp [hfirst]), List.lookup_cons,
        beq_false_of_ne (Ne.symm hfirst), ih]

/-- A file that is found after something was taken away was there before. -/
theorem file_of_erase (h : ((erase names t).find? other).map entry = some (.file content)) :
    (t.find? other).map entry = some (.file content) := by
  -- on the names of what is taken away, with the tree that is left below the ones passed
  induction names generalizing t other with
  | nil => exact h
  | cons name rest ih =>
    rw [erase] at h
    split at h
    · cases other with
      | nil => cases h
      | cons first more =>
        rw [find?_cons, children] at h
        rw [find?_cons]
        by_cases hfirst : first = name
        · rw [hfirst, lookup_filter_self] at h
          cases h
        · rwa [lookup_filter_of_ne hfirst] at h
    · split at h
      next child hchild =>
        cases other with
        | nil => cases h
        | cons first more =>
          rw [find?_cons, children] at h
          rw [find?_cons]
          by_cases hfirst : first = name
          · rw [hfirst, lookup_setChild_self] at h
            rw [hfirst, hchild]
            exact ih h
          · rwa [lookup_setChild_of_ne hfirst] at h
      next => exact h

/-- A file that is found after a tree was put elsewhere was there before. -/
theorem file_of_plant (hne : ¬names <+: other)
    (h : ((plant new names t).find? other).map entry = some (.file content)) :
    (t.find? other).map entry = some (.file content) := by
  -- on the names of the new tree, with the tree that is left below the ones passed
  induction names generalizing t other with
  | nil => exact absurd List.nil_prefix hne
  | cons name rest ih =>
    cases other with
    | nil => cases h
    | cons first more =>
      rw [plant, find?_cons, children] at h
      rw [find?_cons]
      by_cases hfirst : first = name
      · subst hfirst
        rw [lookup_setChild_self] at h
        have hbelow := ih (fun hprefix => hne (List.cons_prefix_cons.mpr ⟨rfl, hprefix⟩)) h
        cases hchild : t.children.lookup first with
        | none =>
          -- there is nothing below a directory that has just been made
          rw [hchild] at hbelow
          cases more with
          | nil => cases hbelow
          | cons second others => cases hbelow
        | some child =>
          rw [hchild] at hbelow
          exact hbelow
      · rwa [lookup_setChild_of_ne hfirst] at h

/-! ### Names side by side -/

section Beside

variable {a b : List Char} (hab : a ≠ b) (above : List (List Char))

theorem find?_empty (above : List (List Char)) (a : List Char) :
    empty.find? (above ++ [a]) = none := by
  cases above <;> rfl

include hab

theorem find?_insert_beside (e : Entry) (t : Tree) :
    (insert e (above ++ [b]) t).find? (above ++ [a]) = t.find? (above ++ [a]) := by
  induction above generalizing t with
  | nil =>
    simp only [List.nil_append]
    rw [insert, find?_cons, children, lookup_setChild_of_ne hab, find?_cons]
  | cons name above ih =>
    rw [List.cons_append, insert, List.cons_append, find?_cons, children, lookup_setChild_self,
      find?_cons, Option.bind_some, ih]
    cases t.children.lookup name with
    | none => exact find?_empty above a
    | some child => rfl

theorem find?_plant_beside (new t : Tree) :
    (plant new (above ++ [b]) t).find? (above ++ [a]) = t.find? (above ++ [a]) := by
  induction above generalizing t with
  | nil =>
    simp only [List.nil_append]
    rw [plant, find?_cons, children, lookup_setChild_of_ne hab, find?_cons]
  | cons name above ih =>
    rw [List.cons_append, plant, List.cons_append, find?_cons, children, lookup_setChild_self,
      find?_cons, Option.bind_some, ih]
    cases t.children.lookup name with
    | none => exact find?_empty above a
    | some child => rfl

theorem find?_erase_beside (t : Tree) :
    (erase (above ++ [b]) t).find? (above ++ [a]) = t.find? (above ++ [a]) := by
  induction above generalizing t with
  | nil =>
    simp only [List.nil_append]
    rw [erase, if_pos rfl, find?_cons, children, lookup_filter_of_ne hab, find?_cons]
  | cons name above ih =>
    have hmore : ¬above ++ [b] = [] := by simp
    rw [List.cons_append, erase, if_neg hmore, List.cons_append]
    cases hchild : t.children.lookup name with
    | none => rfl
    | some child =>
      show (directory (setChild name _ t.children)).find? _ = _
      rw [find?_cons, children, lookup_setChild_self, find?_cons, hchild, Option.bind_some,
        Option.bind_some, ih]

end Beside

/-- What has been put somewhere is found there. -/
theorem find?_plant_self (new : Tree) (names : List (List Char)) (t : Tree) :
    (plant new names t).find? names = some new := by
  induction names generalizing t with
  | nil => rfl
  | cons name rest ih =>
    rw [plant, find?_cons, children, lookup_setChild_self]
    exact ih _

end Tree

/-- Two places with different names in one directory. -/
structure Place.Beside (p q : Place) : Prop where
  absolute : p.absolute = q.absolute
  names : ∃ above a b, a ≠ b ∧ p.names = above ++ [a] ∧ q.names = above ++ [b]

/-- A log file lies beside the places where it is set aside. -/
theorem Place.beside_older {p : Place} (hp : p.reversed ≠ []) (n : Nat) :
    p.Beside (p.older (n + 1)) ∧ (p.older (n + 1)).Beside p := by
  obtain ⟨absolute, reversed⟩ := p
  cases reversed with
  | nil => exact absurd rfl hp
  | cons name above =>
    have hne : name ≠ name ++ '.' :: natText (n + 1) := by simp
    have hself : (⟨absolute, name :: above⟩ : Place).names = above.reverse ++ [name] :=
      List.reverse_cons
    have holder : ((⟨absolute, name :: above⟩ : Place).older (n + 1)).names =
        above.reverse ++ [name ++ '.' :: natText (n + 1)] := List.reverse_cons
    exact ⟨⟨rfl, _, _, _, hne, hself, holder⟩, ⟨rfl, _, _, _, hne.symm, holder, hself⟩⟩

/-- One place is another, or lies above it. -/
def Place.IsAbove (q p : Place) : Prop := q.absolute = p.absolute ∧ q.names <+: p.names

instance (q p : Place) : Decidable (q.IsAbove p) := inferInstanceAs (Decidable (_ ∧ _))

namespace Folder

variable {f g : Folder} {p q : Place} {line : String}

theorem Fileless.removeAt (h : f.Fileless p) (q : Place) : (f.removeAt q).Fileless p :=
  h.change fun _ _ _ => Tree.file_of_erase

theorem Fileless.moveTo {a b : Place} (h : f.Fileless p) (habove : ¬b.IsAbove p)
    (hmoved : f.moveTo a b = .ok g) : g.Fileless p := by
  rw [Folder.moveTo] at hmoved
  split at hmoved
  · cases hmoved
  split at hmoved
  · cases hmoved
  obtain rfl := Except.ok.inj hmoved
  refine (h.removeAt a).change fun habsolute _ _ => Tree.file_of_plant fun hprefix => ?_
  exact habove ⟨habsolute.symm, hprefix⟩

theorem Fileless.clear (h : f.Fileless p) (hcleared : f.clear q = .ok g) : g.Fileless p := by
  rw [Folder.clear] at hcleared
  split at hcleared
  · exact Except.ok.inj hcleared ▸ h
  · cases hcleared
  · exact Except.ok.inj hcleared ▸ h.removeAt q

theorem Fileless.moveOn {n : Nat} (h : f.Fileless p) (habove : ¬(q.older (n + 1)).IsAbove p)
    (hmoved : f.moveOn q n = .ok g) : g.Fileless p := by
  rw [Folder.moveOn] at hmoved
  split at hmoved
  · cases hcleared : f.clear (q.older (n + 1)) with
    | error cause =>
      rw [hcleared] at hmoved
      cases hmoved
    | ok cleared =>
      rw [hcleared] at hmoved
      exact (h.clear hcleared).moveTo habove hmoved
  · exact Except.ok.inj hmoved ▸ h

/-- Setting files aside makes a file only where they are set aside. -/
theorem Fileless.setAside (h : f.Fileless p) (n : Nat)
    (habove : ∀ k < n, ¬(q.older (k + 1)).IsAbove p) : (setAside q n f).1.Fileless p := by
  induction n generalizing f with
  | zero => exact h
  | succ n ih =>
    rw [Folder.setAside]
    split
    · exact h
    next next hmoved =>
      exact ih (h.moveOn (habove n n.lt_succ_self) hmoved) fun k hk =>
        habove k (Nat.lt_trans hk n.lt_succ_self)

/-! ### What is found where -/

theorem treeAt_eq (f : Folder) (p : Place) : f.treeAt p = (f.tree p.absolute).find? p.names := rfl

theorem treeAt_removeAt (h : p.Beside q) : (f.removeAt q).treeAt p = f.treeAt p := by
  obtain ⟨habsolute, above, a, b, hab, hp, hq⟩ := h
  have hchanged : (f.removeAt q).tree p.absolute = Tree.erase q.names (f.tree q.absolute) := by
    show (f.change q _).tree p.absolute = _
    rw [tree_change, if_pos habsolute]
    rfl
  rw [treeAt_eq, treeAt_eq, hchanged, hp, hq, habsolute]
  exact Tree.find?_erase_beside hab above _

theorem treeAt_put (h : p.Beside q) (e : Entry) : (f.put q e).treeAt p = f.treeAt p := by
  obtain ⟨habsolute, above, a, b, hab, hp, hq⟩ := h
  rw [treeAt_eq, tree_put, if_pos habsolute, treeAt_eq, hp, habsolute, hq]
  exact Tree.find?_insert_beside hab above e _

theorem treeAt_clear (h : p.Beside q) (hcleared : f.clear q = .ok g) : g.treeAt p = f.treeAt p := by
  rw [Folder.clear] at hcleared
  split at hcleared
  · rw [Except.ok.inj hcleared]
  · cases hcleared
  · rw [← Except.ok.inj hcleared, treeAt_removeAt h]

/-- What is moved is found at its new place, and what lies beside both places stays. -/
theorem treeAt_moveTo {a b : Place} (hmoved : f.moveTo a b = .ok g) :
    g.treeAt b = f.treeAt a ∧ (p.Beside a → p.Beside b → g.treeAt p = f.treeAt p) := by
  rw [Folder.moveTo] at hmoved
  split at hmoved
  · cases hmoved
  split at hmoved
  · cases hmoved
  next t ht =>
  obtain rfl := Except.ok.inj hmoved
  constructor
  · rw [ht, treeAt_eq, tree_change, if_pos rfl]
    exact Tree.find?_plant_self t b.names _
  · rintro ha ⟨habsolute, above, x, y, hxy, hp, hb⟩
    have hplanted : (((f.removeAt a).change b (t.plant b.names)).tree p.absolute).find? p.names =
        ((f.removeAt a).tree p.absolute).find? p.names := by
      rw [tree_change, if_pos habsolute, habsolute, hp, hb]
      exact Tree.find?_plant_beside hxy above t _
    exact hplanted.trans (treeAt_removeAt ha)

/-- Moving on what has been set aside leaves the log file. -/
theorem treeAt_moveOn (hp : p.reversed ≠ []) {n : Nat} (hmoved : f.moveOn p (n + 1) = .ok g) :
    g.treeAt p = f.treeAt p := by
  rw [Folder.moveOn] at hmoved
  split at hmoved
  · cases hcleared : f.clear (p.older (n + 2)) with
    | error cause =>
      rw [hcleared] at hmoved
      cases hmoved
    | ok cleared =>
      rw [hcleared] at hmoved
      rw [(treeAt_moveTo hmoved).2 (Place.beside_older hp n).1 (Place.beside_older hp (n + 1)).1,
        treeAt_clear (Place.beside_older hp (n + 1)).1 hcleared]
  · rw [Except.ok.inj hmoved]

/-- **What is set aside is found under the first number.** -/
theorem treeAt_older {n : Nat} {t : Tree} (hp : p.reversed ≠ []) (ht : f.treeAt p = some t)
    (hmoved : setAside p (n + 1) f = (g, .ok ())) : g.treeAt (p.older 1) = some t := by
  induction n generalizing f with
  | zero =>
    rw [setAside] at hmoved
    split at hmoved
    · cases hmoved
    next moved hlast =>
    obtain rfl := (Prod.mk.inj hmoved).1
    have hsome : (f.entryAt (p.older 0)).isSome = true := by
      show (f.entryAt p).isSome = true
      rw [entryAt]
      split
      · rfl
      · rw [Option.isSome_map]
        rw [treeAt] at ht
        rw [ht]
        rfl
    rw [moveOn, if_pos hsome] at hlast
    cases hcleared : f.clear (p.older 1) with
    | error cause =>
      rw [hcleared] at hlast
      cases hlast
    | ok cleared =>
      rw [hcleared] at hlast
      rw [(treeAt_moveTo (p := p) hlast).1, ← ht]
      exact treeAt_clear (Place.beside_older hp 0).1 hcleared
  | succ n ih =>
    rw [setAside] at hmoved
    split at hmoved
    · cases hmoved
    next moved hstep =>
    exact ih ((treeAt_moveOn hp hstep).trans ht) hmoved

/-- Where a file has been set aside is no directory above the current one. -/
theorem not_isGiven_older (hp : p.reversed ≠ []) : (p.older 1).isGiven ≠ true := by
  obtain ⟨absolute, reversed⟩ := p
  cases reversed with
  | nil => exact absurd rfl hp
  | cons name above =>
    intro hgiven
    have hname : name ++ ['.', '1'] = dotDot :=
      beq_iff_eq.mp (Bool.and_eq_true_iff.mp hgiven).1
    have hlast := congrArg List.getLast? hname
    rw [List.getLast?_append] at hlast
    cases hlast

/-- The file that is set aside is found under the first number. -/
theorem entryAt_older {n : Nat} {content : List UInt8} (hfile : f.entryAt p = some (.file content))
    (hmoved : setAside p (n + 1) f = (g, .ok ())) :
    g.entryAt (p.older 1) = some (.file content) := by
  have hgiven : p.isGiven ≠ true := by
    intro hgiven
    rw [entryAt_of_isGiven hgiven] at hfile
    cases hfile
  have hp : p.reversed ≠ [] := by
    intro hnil
    rw [Place.isGiven, hnil] at hgiven
    exact hgiven rfl
  rw [entryAt_of_not_isGiven hgiven, ← treeAt_eq, Option.map_eq_some_iff] at hfile
  obtain ⟨t, ht, hentry⟩ := hfile
  rw [entryAt_of_not_isGiven (not_isGiven_older hp), ← treeAt_eq, treeAt_older hp ht hmoved,
    Option.map_some, hentry]

/-- **A line for which there is room** is added to the end of the file. -/
theorem addLine_of_room (h : ¬f.Fills q line) :
    f.addLine q line = (f.append q (Utf8.encode line), .ok ()) := by
  rw [addLine, if_neg h]

/-- **A line that fills the file** begins a new one, if the old one can be set aside; this is found
under the first number then. -/
theorem addLine_of_full {content : List UInt8} (h : f.Fills q line)
    (hmoved : (setAside q keptFiles f).2 = .ok ()) (hfile : f.entryAt q = some (.file content)) :
    (f.addLine q line).2 = .ok () ∧
      (f.addLine q line).1.entryAt (q.older 1) = some (.file content) := by
  rw [addLine, if_pos h]
  cases haside : setAside q keptFiles f with
  | mk g made =>
    rw [haside] at hmoved
    obtain rfl : made = .ok () := hmoved
    refine ⟨rfl, ?_⟩
    have hq : q.reversed ≠ [] := by
      intro hnil
      rw [entryAt, Place.isGiven, hnil, List.all_nil, if_pos rfl] at hfile
      cases hfile
    have hentry := entryAt_older hfile haside
    have hgiven := not_isGiven_older hq
    rw [entryAt_of_not_isGiven hgiven, ← treeAt_eq] at hentry ⊢
    exact (congrArg _ (treeAt_put (Place.beside_older hq 0).2 _)).trans hentry

/-- **A line makes a file** only where it is written, and where the log file is set aside. -/
theorem Fileless.addLine (h : f.Fileless p) (hne : p ≠ q)
    (habove : ∀ k < keptFiles, ¬(q.older (k + 1)).IsAbove p) (line : String) :
    (f.addLine q line).1.Fileless p := by
  have hmoved : (if f.Fills q line then Folder.setAside q keptFiles f
      else (f, .ok ())).1.Fileless p := by
    split
    · exact h.setAside keptFiles habove
    · exact h
  rw [Folder.addLine]
  generalize (if f.Fills q line then Folder.setAside q keptFiles f
    else (f, .ok ()) : Folder × Except Cause Unit) = moved at hmoved ⊢
  obtain ⟨folder, made⟩ := moved
  cases made with
  | error cause => exact hmoved
  | ok _ => exact hmoved.append hne _

end Folder

end PeerName.Storage
