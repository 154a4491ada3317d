import PeerName.Storage.Folder

/-!
# Folders that grow

While the directories above a file are made and the file is opened for adding to its end, nothing
else in the tree changes: a directory stays one, and every other file keeps its content.  Paths
lead to the same places as before, so whatever could be read can be read again.

* `Tree.entry_insert_of_ne` — an entry that is put somewhere leaves the others as they are;
* `Folder.Grows` — a folder after such operations, with the one place whose file may change;
* `Folder.Open` — the places at which an entry can be put without loss;
* `put_grows`, `append_grows`, `openAt_grows` — what the operations on one place do;
* `ensureParent_keeps` — what making one directory keeps is kept while many are made;
* `makeDirectory_grows`, `ensureParent_grows` — what making directories does;
* `Folder.Grows.find_eq` — **a path that leads anywhere but to that file leads there still**.
-/

namespace PeerName.Storage

/-! ### Trees -/

namespace Tree

variable {t child : Tree} {name : List Char} {names rest other : List (List Char)} {e x : Entry}

theorem find?_cons (t : Tree) (name : List Char) (rest : List (List Char)) :
    t.find? (name :: rest) = (t.children.lookup name).bind fun child => child.find? rest := by
  rw [find?]
  cases t.children.lookup name <;> rfl

theorem find?_append (t : Tree) (names rest : List (List Char)) :
    t.find? (names ++ rest) = (t.find? names).bind fun below => below.find? rest := by
  induction names generalizing t with
  | nil => rfl
  | cons name names ih =>
    rw [List.cons_append, find?_cons, find?_cons]
    cases t.children.lookup name with
    | none => rfl
    | some child => exact ih child

/-- There is nothing below a file. -/
theorem eq_directory_of_find?_cons (h : (t.find? (name :: rest)).isSome = true) :
    t.entry = .directory := by
  cases t with
  | file content => cases h
  | directory children => rfl

/-- What stands above an entry is a directory. -/
theorem entry_of_find?_append (h : (t.find? (names ++ name :: rest)).isSome = true) :
    (t.find? names).map entry = some .directory := by
  rw [find?_append] at h
  cases hnames : t.find? names with
  | none =>
    rw [hnames] at h
    cases h
  | some below =>
    rw [hnames] at h
    rw [Option.map_some, eq_directory_of_find?_cons h]

theorem isSome_of_entry (h : (t.find? names).map entry = some x) :
    (t.find? names).isSome = true := by
  rw [← Option.isSome_map, h]
  rfl

theorem lookup_setChild_self (name : List Char) (t : Tree) (l : List (List Char × Tree)) :
    (setChild name t l).lookup name = some t := by
  induction l with
  | nil => simp [setChild]
  | cons pair rest ih =>
    obtain ⟨key, old⟩ := pair
    by_cases hkey : key = name
    · simp [setChild, hkey]
    · rw [setChild, if_neg hkey, List.lookup_cons, beq_false_of_ne (Ne.symm hkey)]
      exact ih

theorem lookup_setChild_of_ne {key : List Char} (h : key ≠ name) (t : Tree)
    (l : List (List Char × Tree)) : (setChild name t l).lookup key = l.lookup key := by
  induction l with
  | nil => simp [setChild, List.lookup_cons, beq_false_of_ne h]
  | cons pair rest ih =>
    obtain ⟨first, old⟩ := pair
    by_cases hfirst : first = name
    · subst hfirst
      rw [setChild, if_pos rfl, List.lookup_cons, List.lookup_cons, beq_false_of_ne h]
    · rw [setChild, if_neg hfirst, List.lookup_cons, List.lookup_cons, ih]

/-- The names of an entry that has been put lead to it. -/
theorem entry_insert_self (e : Entry) (names : List (List Char)) (t : Tree) :
    ((insert e names t).find? names).map entry = some e := by
  induction names generalizing t with
  | nil => cases e <;> rfl
  | cons name rest ih =>
    rw [insert, find?_cons, children, lookup_setChild_self]
    exact ih _

/-- An entry that is put somewhere leaves the others as they are: it takes the place of no
directory, and what it needs above itself is no file. -/
theorem entry_insert_of_ne (hne : other ≠ names)
    (hplace : (t.find? names).map entry ≠ some .directory)
    (hx : (t.find? other).map entry = some x) (habove : x = .directory ∨ ¬other <+: names) :
    ((insert e names t).find? other).map entry = some x := by
  -- on the names of the new entry, with the tree that is left below the ones passed
  induction names generalizing t other with
  | nil =>
    cases other with
    | nil => exact absurd rfl hne
    | cons first more =>
      have hdirectory := eq_directory_of_find?_cons (isSome_of_entry hx)
      exact absurd (congrArg some hdirectory) hplace
  | cons name rest ih =>
    cases other with
    | nil =>
      rcases habove with rfl | hprefix
      · rfl
      · exact absurd (List.nil_prefix) hprefix
    | cons first more =>
      rw [insert, find?_cons, children]
      rw [find?_cons] at hx
      by_cases hfirst : first = name
      · subst hfirst
        rw [lookup_setChild_self]
        cases hchild : t.children.lookup first with
        | none =>
          rw [hchild] at hx
          cases hx
        | some child =>
          rw [hchild] at hx
          rw [find?_cons, hchild] at hplace
          refine ih (fun h => hne (h ▸ rfl)) hplace hx (habove.imp_right fun hprefix h => ?_)
          exact hprefix ((List.cons_prefix_cons).mpr ⟨rfl, h⟩)
      · rw [lookup_setChild_of_ne hfirst]
        exact hx

end Tree

/-! ### Places -/

/-- The names of a place, the first one first. -/
def Place.names (p : Place) : List (List Char) := p.reversed.reverse

/-- A place is given by its tree and its names. -/
theorem Place.eq_of_names {p q : Place} (habsolute : p.absolute = q.absolute)
    (hnames : p.names = q.names) : p = q := by
  rw [names, names, List.reverse_inj] at hnames
  cases p
  cases q
  simp_all

/-- The tree below the root or below the current directory. -/
def Folder.tree (f : Folder) (absolute : Bool) : Tree := if absolute then f.far else f.near

namespace Folder

variable {f g k : Folder} {p q : Place} {e : Entry} {path : String}

theorem entryAt_of_isGiven (h : p.isGiven = true) (f : Folder) :
    f.entryAt p = some .directory := by
  rw [entryAt, if_pos h]

theorem not_isGiven_of_ne (h : f.entryAt p ≠ some .directory) : p.isGiven ≠ true :=
  fun hgiven => h (entryAt_of_isGiven hgiven f)

/-- Where there is a file, the place is not given. -/
theorem not_isGiven_of_file {content : List UInt8} (h : f.entryAt p = some (.file content)) :
    p.isGiven ≠ true := by
  refine not_isGiven_of_ne (f := f) ?_
  rw [h]
  exact fun hfile => nomatch hfile

theorem entryAt_of_not_isGiven (h : p.isGiven ≠ true) (f : Folder) :
    f.entryAt p = ((f.tree p.absolute).find? p.names).map Tree.entry := by
  rw [entryAt, if_neg h]
  rfl

theorem tree_change (f : Folder) (q : Place) (change : Tree → Tree) (absolute : Bool) :
    (f.change q change).tree absolute =
      if absolute = q.absolute then change (f.tree q.absolute) else f.tree absolute := by
  rw [Folder.change]
  cases absolute <;> cases q.absolute <;> rfl

theorem tree_put (f : Folder) (q : Place) (e : Entry) (absolute : Bool) :
    (f.put q e).tree absolute =
      if absolute = q.absolute then Tree.insert e q.names (f.tree q.absolute)
      else f.tree absolute :=
  tree_change f q _ absolute

/-- A place that has been given an entry holds it. -/
theorem entryAt_put_self (h : q.isGiven ≠ true) (f : Folder) (e : Entry) :
    (f.put q e).entryAt q = some e := by
  rw [entryAt_of_not_isGiven h, tree_put, if_pos rfl]
  exact Tree.entry_insert_self _ _ _

/-- An entry can be put at this place without loss: it holds no directory, and what is above it is
a directory. -/
def Open (f : Folder) (q : Place) : Prop :=
  f.entryAt q ≠ some .directory ∧ ∃ name rest, q.reversed = name :: rest ∧
    f.entryAt ⟨q.absolute, rest⟩ = some .directory

/-- Directories stay directories, and files keep their contents, but for the file at one place. -/
structure Grows (q : Place) (f g : Folder) : Prop where
  directory : ∀ p, f.entryAt p = some .directory → g.entryAt p = some .directory
  file : ∀ p content, p ≠ q → f.entryAt p = some (.file content) →
    g.entryAt p = some (.file content)

theorem Grows.refl (q : Place) (f : Folder) : Grows q f f := ⟨fun _ h => h, fun _ _ _ h => h⟩

theorem Grows.trans (h : Grows q f g) (hnext : Grows q g k) : Grows q f k where
  directory p hp := hnext.directory p (h.directory p hp)
  file p content hne hp := hnext.file p content hne (h.file p content hne hp)

/-- The exception is none if there was nothing at the place. -/
theorem Grows.of_vacant (h : Grows p f g) (hvacant : f.entryAt p = none) (q : Place) :
    Grows q f g where
  directory := h.directory
  file r content _ hr := by
    refine h.file r content ?_ hr
    rintro rfl
    rw [hvacant] at hr
    cases hr

theorem Open.not_isGiven (h : f.Open q) : q.isGiven ≠ true := not_isGiven_of_ne h.1

/-- A file does not lie above an open place. -/
theorem Open.not_prefix (h : f.Open q) {content : List UInt8} (hne : p ≠ q)
    (habsolute : p.absolute = q.absolute) (hp : f.entryAt p = some (.file content)) :
    ¬p.names <+: q.names := by
  obtain ⟨-, name, rest, hq, hrest⟩ := h
  rintro ⟨more, hmore⟩
  have hgiven : p.isGiven ≠ true := not_isGiven_of_file hp
  -- the names in between end with the last name of the open place
  have hreversed : more.reverse ++ p.reversed = name :: rest := by
    rw [← hq, ← List.reverse_inj, List.reverse_append, List.reverse_reverse]
    exact hmore
  cases hlast : more.reverse with
  | nil =>
    rw [hlast, List.nil_append, ← hq] at hreversed
    exact hne (Place.eq_of_names habsolute (congrArg List.reverse hreversed))
  | cons first between =>
    rw [hlast, List.cons_append, List.cons.injEq] at hreversed
    obtain ⟨-, hrest'⟩ := hreversed
    cases between with
    | nil =>
      rw [List.nil_append] at hrest'
      rw [← hrest', ← habsolute, hp] at hrest
      cases hrest
    | cons second others =>
      -- a directory that stands below a file would have to be given
      by_cases habove : (⟨q.absolute, rest⟩ : Place).isGiven = true
      · refine hgiven ?_
        rw [Place.isGiven, ← hrest', List.all_append, Bool.and_eq_true] at habove
        exact habove.2
      · have hnames : (⟨q.absolute, rest⟩ : Place).names =
            p.names ++ (second :: others).reverse := by
          rw [Place.names, ← hrest', List.reverse_append, Place.names]
        obtain ⟨last, front, hfront⟩ := List.exists_cons_of_ne_nil
          (List.reverse_ne_nil_iff.mpr (List.cons_ne_nil second others))
        rw [entryAt_of_not_isGiven habove, hnames, hfront, ← habsolute] at hrest
        have hsome := Tree.isSome_of_entry hrest
        rw [entryAt_of_not_isGiven hgiven, Tree.entry_of_find?_append hsome] at hp
        cases hp

/-- An entry that is put at an open place leaves the others as they are. -/
theorem put_grows (h : f.Open q) (e : Entry) : Grows q f (f.put q e) := by
  have hkeep {p : Place} {x : Entry} (hne : p ≠ q) (hp : f.entryAt p = some x)
      (hgiven : p.isGiven ≠ true)
      (habove : p.absolute = q.absolute → x = .directory ∨ ¬p.names <+: q.names) :
      (f.put q e).entryAt p = some x := by
    rw [entryAt_of_not_isGiven hgiven] at hp ⊢
    rw [tree_put]
    by_cases habsolute : p.absolute = q.absolute
    · rw [if_pos habsolute]
      rw [habsolute] at hp
      refine Tree.entry_insert_of_ne ?_ ?_ hp (habove habsolute)
      · intro hnames
        exact hne (Place.eq_of_names habsolute hnames)
      · rw [← entryAt_of_not_isGiven h.not_isGiven]
        exact h.1
    · rw [if_neg habsolute]
      exact hp
  constructor
  · intro p hp
    by_cases hgiven : p.isGiven = true
    · exact entryAt_of_isGiven hgiven _
    · refine hkeep ?_ hp hgiven fun _ => Or.inl rfl
      rintro rfl
      exact h.1 hp
  · intro p content hne hp
    exact hkeep hne hp (not_isGiven_of_file hp) fun habsolute =>
      Or.inr (h.not_prefix hne habsolute hp)

/-- Where a file has been put, another one can be. -/
theorem Open.put (h : f.Open q) (content : List UInt8) : (f.put q (.file content)).Open q := by
  constructor
  · rw [entryAt_put_self h.not_isGiven]
    exact fun h => nomatch h
  · obtain ⟨name, rest, hq, hrest⟩ := h.2
    exact ⟨name, rest, hq, (put_grows h _).directory _ hrest⟩

theorem append_grows (h : f.Open q) (content : List UInt8) : Grows q f (f.append q content) :=
  put_grows h _

theorem Open.append (h : f.Open q) (content : List UInt8) : (f.append q content).Open q :=
  h.put _

/-- What is above a place that holds no directory is found by leaving out its last name. -/
theorem exists_parent (hq : f.entryAt q ≠ some .directory)
    (habove : f.entryAt q.above = some .directory) :
    ∃ name rest, q.reversed = name :: rest ∧ f.entryAt ⟨q.absolute, rest⟩ = some .directory := by
  obtain ⟨absolute, reversed⟩ := q
  have hgiven : (⟨absolute, reversed⟩ : Place).isGiven ≠ true := not_isGiven_of_ne hq
  cases reversed with
  | nil => exact absurd rfl hgiven
  | cons name rest =>
    refine ⟨name, rest, rfl, ?_⟩
    by_cases hname : name = dotDot
    · -- two dots that lead nowhere have nothing above them either
      rw [Place.above] at habove
      dsimp only at habove
      rw [if_pos hname] at habove
      have hnames : (⟨absolute, dotDot :: name :: rest⟩ : Place).names =
          (⟨absolute, name :: rest⟩ : Place).names ++ [dotDot] := List.reverse_cons
      rw [entryAt_of_not_isGiven (by simpa [Place.isGiven] using hgiven), hnames] at habove
      refine absurd ?_ hq
      rw [entryAt_of_not_isGiven hgiven]
      exact Tree.entry_of_find?_append (Tree.isSome_of_entry habove)
    · rw [Place.above] at habove
      dsimp only at habove
      rwa [if_neg hname] at habove

/-- A place at which a file can be opened is an open one. -/
theorem openAt_eq_ok (h : f.openAt q = .ok g) : f.Open q ∧ g = f.append q [] := by
  rw [openAt] at h
  split at h
  · cases h
  split at h
  · cases h
  next hdirectory =>
  split at h
  · cases h
  · cases h
  next habove =>
  split at h
  · cases h
  · exact ⟨⟨hdirectory, exists_parent hdirectory habove⟩, (Except.ok.inj h).symm⟩

theorem openAt_grows (h : f.openAt q = .ok g) : Grows q f g ∧ g.Open q := by
  obtain ⟨hopen, rfl⟩ := openAt_eq_ok h
  exact ⟨append_grows hopen [], hopen.append []⟩

/-! ### Directories -/

/-- A path that is followed by one name leads on from a directory. -/
theorem follow_singleton {name : List Char} (h : f.follow p [name] = .ok q) :
    f.entryAt p = some .directory ∧ q = p.step name := by
  rw [follow] at h
  split at h
  · cases h
  · cases h
  next hentry =>
  split at h
  · cases h
  · exact ⟨hentry, (Except.ok.inj h).symm⟩

/-- The place of a new directory is an open one. -/
theorem newPlace_open {names : List Char} {last : Cause} (h : f.newPlace names last = .ok q)
    (hvacant : f.entryAt q = none) : f.Open q := by
  rw [newPlace] at h
  cases hparent : f.parentPlace names last with
  | error cause =>
    rw [hparent] at h
    cases h
  | ok found =>
    obtain ⟨parent, name⟩ := found
    rw [hparent] at h
    simp only [bind, Except.bind] at h
    cases hfollow : f.follow parent [name] with
    | error cause =>
      rw [hfollow] at h
      cases h
    | ok p =>
      rw [hfollow] at h
      simp only at h
      split at h
      · cases h
      next hname =>
      obtain rfl : p = q := Except.ok.inj h
      obtain ⟨hdirectory, rfl⟩ := follow_singleton hfollow
      rw [not_or] at hname
      by_cases hempty : name = []
      · rw [Place.step, if_pos (Or.inl hempty)] at hvacant
        rw [hvacant] at hdirectory
        cases hdirectory
      · have hstep : parent.step name = ⟨parent.absolute, name :: parent.reversed⟩ := by
          rw [Place.step, if_neg (not_or.mpr ⟨hempty, hname.1⟩), if_neg hname.2]
        rw [hstep] at hvacant ⊢
        refine ⟨?_, name, parent.reversed, rfl, hdirectory⟩
        rw [hvacant]
        exact fun h => nomatch h

theorem makeDirectory_grows (h : f.makeDirectory path = .ok g) (q : Place) : Grows q f g := by
  rw [makeDirectory] at h
  split at h
  · cases h
  split at h
  · cases h
  next p hplace =>
  split at h
  · cases h
  next hentry =>
  obtain rfl := Except.ok.inj h
  have hvacant : f.entryAt p = none := Option.not_isSome_iff_eq_none.mp hentry
  exact (put_grows (newPlace_open hplace hvacant) .directory).of_vacant hvacant q

section Directories

variable {P : Folder → Prop}
  (hmake : ∀ {f g : Folder} {path : String}, P f → f.makeDirectory path = .ok g → P g)

include hmake

/-- What is kept by making one directory is kept where the directory may be there already. -/
theorem makeMissing_keeps (path : String) (h : P f) : P (f.makeMissing path).1 := by
  rw [makeMissing]
  cases hmade : f.makeDirectory path with
  | ok g => exact hmake h hmade
  | error cause =>
    dsimp only
    split
    · exact h
    · exact h

/-- It is kept by making a directory with those above it, whether this succeeds or not. -/
theorem ensureNames_keeps (root : List Char) (room : Nat) (names : List (List Char)) (h : P f) :
    P (ensureNames root room names f).1 := by
  induction room generalizing names f with
  | zero => exact h
  | succ room ih =>
    cases names with
    | nil => exact makeMissing_keeps hmake _ h
    | cons name above =>
      rw [ensureNames]
      split
      next g hmade => exact hmake h hmade
      next =>
        have habove := ih above h
        cases hensured : ensureNames root room above f with
        | mk g made =>
          rw [hensured] at habove
          cases made with
          | error cause => exact habove
          | ok _ => exact makeMissing_keeps hmake _ habove
      next =>
        split
        · exact h
        · exact h

theorem ensureParent_keeps (path : String) (h : P f) : P (f.ensureParent path).1 :=
  ensureNames_keeps hmake _ _ _ h

end Directories

/-- Making a directory with those above it changes nothing else, whether it succeeds or not. -/
theorem ensureParent_grows (f : Folder) (path : String) (q : Place) :
    Grows q f (f.ensureParent path).1 := by
  apply ensureParent_keeps (P := Grows q f) _ path (.refl q f)
  intro g k name hgrows hmade
  exact hgrows.trans (makeDirectory_grows hmade q)

/-! ### Paths -/

/-- What a path leads to is what its place holds. -/
theorem entryAt_of_find {x : Entry} (h : f.find path = .ok (p, x)) : f.entryAt p = some x := by
  rw [find] at h
  split at h
  · cases h
  split at h
  · cases h
  split at h
  next entry hentry =>
    obtain ⟨rfl, rfl⟩ := Prod.mk.inj (Except.ok.inj h)
    exact hentry
  next => cases h

theorem Grows.follow (h : Grows q f g) {names : List (List Char)} {start : Place}
    (hfollow : f.follow start names = .ok p) : g.follow start names = .ok p := by
  induction names generalizing start with
  | nil => exact hfollow
  | cons name rest ih =>
    rw [Folder.follow] at hfollow ⊢
    split at hfollow
    · cases hfollow
    · cases hfollow
    next hentry =>
    rw [h.directory _ hentry]
    split at hfollow
    · cases hfollow
    next hlength =>
    dsimp only
    rw [if_neg hlength]
    exact ih hfollow

theorem Grows.place (h : Grows q f g) {names : List Char} (hplace : f.place names = .ok p) :
    g.place names = .ok p := by
  rw [Folder.place] at hplace ⊢
  split at hplace
  · cases hplace
  next hempty =>
  rw [if_neg hempty]
  exact h.follow hplace

/-- What is left of one place when something else has changed. -/
theorem Grows.entryAt (h : Grows q f g) {x : Entry} (hx : x = .directory ∨ p ≠ q)
    (hp : f.entryAt p = some x) : g.entryAt p = some x := by
  cases x with
  | directory => exact h.directory p hp
  | file content =>
    rcases hx with hx | hne
    · cases hx
    · exact h.file p content hne hp

/-- **A path that leads anywhere but to the changed file leads there still.** -/
theorem Grows.find_eq (h : Grows q f g) {x : Entry} (hfind : f.find path = .ok (p, x))
    (hx : x = .directory ∨ p ≠ q) : g.find path = .ok (p, x) := by
  rw [find] at hfind ⊢
  split at hfind
  · cases hfind
  split at hfind
  · cases hfind
  next found hplace =>
  split at hfind
  next entry hentry =>
    obtain ⟨rfl, rfl⟩ := Prod.mk.inj (Except.ok.inj hfind)
    rw [h.place hplace]
    dsimp only
    rw [h.entryAt hx hentry]
  next => cases hfind

end Folder

end PeerName.Storage
