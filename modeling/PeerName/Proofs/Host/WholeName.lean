import PeerName.Host.Pattern
import PeerName.Proofs.Host.Label

/-!
# Patterns and hosts as whole names

Whether a pattern covers a host is decided label by label.  Here the same is said of whole names:
nothing is cut, counted or paired, a name is only compared with its parts.

* `Widens` — the star of a pattern stands for the first label of a host;
* `Covered` — what it means that a pattern covers a host;
* `coversLabels_iff`, `widens_iff` — the same relations on labels;
* `covers_iff_covered`, `mem_of_covers` — the decision about texts, and the characters in them;
* `coversValue_iff_covered` — **the decision is the relation**, for values of any kind.
-/

namespace PeerName.Host

/-- The pattern is a star, a dot and a text with a dot; the host is a label, a dot and the same
text up to capitals. -/
def Widens (pattern host : String) : Prop :=
  ∃ label rest tail : String, pattern = "*." ++ rest ∧ host = label ++ "." ++ tail ∧
    label ≠ "" ∧ '.' ∉ label.toList ∧ '.' ∈ rest.toList ∧ rest.toLower = tail.toLower

/-- What it means that a pattern covers a host. -/
def Covered (wildcards : Bool) (pattern host : String) : Prop :=
  '*' ∉ host.toList ∧ IsDotted pattern ∧ IsDotted host ∧
    (pattern.toLower = host.toLower ∨ wildcards = true ∧ Widens pattern host)

/-! ### Names by their small labels -/

/-- The pieces between the dots of a name after its capitals have been made small. -/
def smallPieces (name : String) : List (List Char) := splitDots (fold name.toList)

theorem smallPieces_eq_map (name : String) :
    smallPieces name = (splitDots name.toList).map fold := splitDots_fold name.toList

theorem toLower_eq_iff (s t : String) : s.toLower = t.toLower ↔ smallPieces s = smallPieces t := by
  have htext (u : String) : u.toLower.toList = fold u.toList := by
    rw [fold_eq_map_toLower]
    exact String.toList_map
  rw [← String.toList_inj, htext, htext]
  exact (Text.pieces_injective '.').eq_iff.symm

theorem labels?_fold_eq_some_iff (name : String) (labels : List (List Char)) :
    labels? (fold name.toList) = some labels ↔ IsDotted name ∧ smallPieces name = labels := by
  have hnil : [] ∈ smallPieces name ↔ [] ∈ splitDots name.toList := by
    simp only [smallPieces_eq_map, List.mem_map, fold_eq_nil_iff, exists_eq_right]
  rw [labels?_eq_some_iff, isDotted_iff, ← hnil]
  exact And.comm

/-- A pattern covers a host when both are names, the host has no star, and the labels agree. -/
theorem covers_iff_labels (wildcards : Bool) (pattern host : String) :
    covers wildcards pattern host = true ↔ '*' ∉ host.toList ∧ IsDotted pattern ∧ IsDotted host ∧
      coversLabels wildcards (smallPieces pattern) (smallPieces host) = true := by
  have hhost (labels : List (List Char)) : hostLabels? host.toList = some labels ↔
      '*' ∉ host.toList ∧ IsDotted host ∧ smallPieces host = labels := by
    rw [hostLabels?, ← labels?_fold_eq_some_iff]
    split
    · rename_i h
      exact iff_of_false (nomatch ·) fun hs => hs.1 (List.contains_iff_mem.mp h)
    · rename_i h
      exact (and_iff_right fun hmem => h (List.contains_iff_mem.mpr hmem)).symm
  rw [covers]
  split
  · rename_i p h hp hh
    obtain ⟨hpattern, rfl⟩ := (labels?_fold_eq_some_iff pattern p).mp hp
    obtain ⟨hstar, hdotted, rfl⟩ := (hhost h).mp hh
    exact ⟨fun hcov => ⟨hstar, hpattern, hdotted, hcov⟩, fun hall => hall.2.2.2⟩
  · rename_i hnone
    refine iff_of_false Bool.false_ne_true fun ⟨hstar, hpattern, hdotted, _⟩ => ?_
    exact hnone _ _ ((labels?_fold_eq_some_iff _ _).mpr ⟨hpattern, rfl⟩)
      ((hhost _).mpr ⟨hstar, hdotted, rfl⟩)

theorem startsWithStar_iff (labels : List (List Char)) :
    startsWithStar labels = true ↔ ∃ rest, labels = star :: rest ∧ 2 ≤ rest.length := by
  cases labels with
  | nil => exact iff_of_false Bool.false_ne_true fun ⟨_, heq, _⟩ => nomatch heq
  | cons first rest =>
    rw [startsWithStar, Bool.and_eq_true, beq_iff_eq]
    constructor
    · exact fun ⟨hfirst, hlen⟩ => ⟨rest, by rw [hfirst], of_decide_eq_true hlen⟩
    · rintro ⟨_, heq, hlen⟩
      obtain ⟨rfl, rfl⟩ := List.cons.inj heq
      exact ⟨rfl, decide_eq_true hlen⟩

/-- **Labels agree when they are equal**, or when a star with two labels behind it stands in front
of the labels that follow the first one of the host. -/
theorem coversLabels_iff (wildcards : Bool) (pattern host : List (List Char)) :
    coversLabels wildcards pattern host = true ↔ pattern = host ∨ wildcards = true ∧
      ∃ label rest, pattern = star :: rest ∧ host = label :: rest ∧ 2 ≤ rest.length := by
  rw [coversLabels, Bool.and_eq_true, beq_iff_eq]
  constructor
  · rintro ⟨hlen, hlabels⟩
    split at hlabels
    · rename_i hstar
      rw [Bool.and_eq_true, startsWithStar_iff] at hstar
      obtain ⟨hwild, rest, rfl, hrest⟩ := hstar
      cases host with
      | nil => exact absurd hlen (Nat.succ_ne_zero _)
      | cons label tail =>
        have htail : rest = tail := beq_iff_eq.mp hlabels
        exact Or.inr ⟨hwild, label, rest, rfl, by rw [htail], hrest⟩
    · exact Or.inl (beq_iff_eq.mp hlabels)
  · rintro (rfl | ⟨rfl, label, rest, rfl, rfl, hlen⟩)
    · exact ⟨rfl, by split <;> exact beq_self_eq_true _⟩
    · have hstar : startsWithStar (star :: rest) = true :=
        (startsWithStar_iff _).mpr ⟨rest, rfl, hlen⟩
      refine ⟨rfl, ?_⟩
      rw [hstar]
      exact beq_self_eq_true rest

/-! ### The two forms of a wildcard -/

/-- The pieces of a name with a label in front. -/
theorem smallPieces_append (label tail : String) (h : '.' ∉ label.toList) :
    smallPieces (label ++ "." ++ tail) = fold label.toList :: smallPieces tail := by
  have hdot : ".".toList = ['.'] := rfl
  have hlabel : '.' ∉ fold label.toList := fun hmem => h ((mem_fold_iff (by decide) _).mp hmem)
  rw [smallPieces, String.toList_append, String.toList_append, hdot, List.append_assoc,
    List.singleton_append, fold_append]
  exact Text.pieces_append_cons hlabel (fold tail.toList)

/-- A name whose first label is not the only one has a dot behind it. -/
theorem exists_of_smallPieces_eq_cons {name : String} {label : List Char}
    {rest : List (List Char)} (h : smallPieces name = label :: rest) (hne : rest ≠ []) :
    ∃ first tail : String, name = first ++ "." ++ tail ∧ first.toList ∈ splitDots name.toList ∧
      fold first.toList = label ∧ smallPieces tail = rest := by
  rw [smallPieces_eq_map] at h
  obtain ⟨first, others, hpieces, hfirst, hothers⟩ := List.map_eq_cons_iff.mp h
  have hne : others ≠ [] := fun hnil => hne (by rw [← hothers, hnil, List.map_nil])
  obtain ⟨tail, hname, htail⟩ := Text.eq_append_of_pieces_eq_cons hpieces hne
  refine ⟨String.ofList first, String.ofList tail, ?_, ?_, ?_, ?_⟩
  · rw [← String.toList_inj, hname]
    simp
  · rw [String.toList_ofList, hpieces]
    exact List.mem_cons_self
  · rwa [String.toList_ofList]
  · rw [smallPieces_eq_map, String.toList_ofList, ← hothers]
    exact congrArg (List.map fold) htail

theorem two_le_length_smallPieces_iff (s : String) :
    2 ≤ (smallPieces s).length ↔ '.' ∈ s.toList := by
  rw [smallPieces, splitDots, Text.length_pieces, ← mem_fold_iff (d := '.') (by decide),
    ← List.count_pos_iff]
  omega

/-- Only the star itself is a star after its capitals have been made small. -/
theorem eq_star_of_fold_eq {label : List Char} (h : fold label = star) : label = ['*'] := by
  obtain ⟨c, rest, rfl, hc, hrest⟩ := List.map_eq_cons_iff.mp h
  rw [(Unicode.lowerAscii_eq_iff (by decide)).mp hc, (fold_eq_nil_iff rest).mp hrest]

theorem widens_iff {pattern host : String} (hhost : IsDotted host) :
    Widens pattern host ↔ ∃ label rest, smallPieces pattern = star :: rest ∧
      smallPieces host = label :: rest ∧ 2 ≤ rest.length := by
  constructor
  · rintro ⟨label, rest, tail, rfl, rfl, hne, hlabel, hrest, heq⟩
    refine ⟨fold label.toList, smallPieces rest, ?_, ?_, ?_⟩
    · exact smallPieces_append "*" rest (by decide)
    · rw [smallPieces_append label tail hlabel, (toLower_eq_iff rest tail).mp heq]
    · exact (two_le_length_smallPieces_iff rest).mpr hrest
  · rintro ⟨label, rest, hpattern, hlabels, hlen⟩
    have hne : rest ≠ [] := List.ne_nil_of_length_pos (by omega)
    obtain ⟨first, s, rfl, -, hstar, hs⟩ := exists_of_smallPieces_eq_cons hpattern hne
    obtain ⟨l, t, rfl, hmem, -, ht⟩ := exists_of_smallPieces_eq_cons hlabels hne
    have hfirst : first = "*" := String.toList_inj.mp (eq_star_of_fold_eq hstar)
    refine ⟨l, s, t, ?_, rfl, ?_, Text.notMem_of_mem_pieces hmem, ?_, ?_⟩
    · rw [hfirst]
      rfl
    · rintro rfl
      exact (isDotted_iff _).mp hhost hmem
    · exact (two_le_length_smallPieces_iff s).mp (by rwa [hs])
    · exact (toLower_eq_iff s t).mpr (by rw [hs, ht])

/-! ### Whole names -/

/-- A pattern covers a host exactly when it covers it as a whole name. -/
theorem covers_iff_covered (wildcards : Bool) (pattern host : String) :
    covers wildcards pattern host = true ↔ Covered wildcards pattern host := by
  rw [covers_iff_labels, Covered]
  refine and_congr_right fun _ => and_congr_right fun _ => and_congr_right fun hhost => ?_
  rw [coversLabels_iff, toLower_eq_iff, widens_iff hhost]

theorem mem_of_toLower_eq {s t : String} (h : s.toLower = t.toLower) {d : Char}
    (hd : d.toNat < 'A'.toNat ∨ 'z'.toNat < d.toNat) (hmem : d ∈ s.toList) : d ∈ t.toList := by
  have hfold : fold s.toList = fold t.toList :=
    Text.pieces_injective '.' ((toLower_eq_iff s t).mp h)
  rw [← mem_fold_iff hd, ← hfold]
  exact (mem_fold_iff hd _).mpr hmem

/-- A name has no characters of its own: those that are no letters, apart from a star and dots, are
in every host that it covers. -/
theorem mem_of_covers {wildcards : Bool} {pattern host : String}
    (h : covers wildcards pattern host = true) {d : Char}
    (hd : d.toNat < 'A'.toNat ∨ 'z'.toNat < d.toNat) (hstar : d ≠ '*') (hdot : d ≠ '.')
    (hmem : d ∈ pattern.toList) : d ∈ host.toList := by
  obtain ⟨-, -, -, hsame | ⟨-, label, rest, tail, rfl, rfl, -, -, -, hrest⟩⟩ :=
    (covers_iff_covered wildcards pattern host).mp h
  · exact mem_of_toLower_eq hsame hd hmem
  · have hmem : d ∈ rest.toList := by
      simpa [hstar, hdot] using hmem
    have htail := mem_of_toLower_eq hrest hd hmem
    simp [htail]

/-! ### The decision -/

/-- **A value covers another exactly when both are texts and the one covers the other as whole
names.** -/
theorem coversValue_iff_covered (wildcards pattern host : Value) :
    coversValue wildcards.isTruthy pattern host = true ↔
      ∃ p h : String, pattern = .text p ∧ host = .text h ∧ Covered wildcards.isTruthy p h := by
  constructor
  · intro hcov
    cases pattern with
    | text p =>
      cases host with
      | text h => exact ⟨p, h, rfl, rfl, (covers_iff_covered _ p h).mp hcov⟩
      | _ => exact absurd hcov Bool.false_ne_true
    | _ => exact absurd hcov Bool.false_ne_true
  · rintro ⟨p, h, rfl, rfl, hcov⟩
    exact (covers_iff_covered _ p h).mpr hcov

-- A star stands for one label, and a name of two labels has none to spare for it.
example : coversValue true (.text "*.Bar.test") (.text "foo.bar.test") = true := by decide +kernel
example : coversValue true (.text "*.bar.test") (.text "a.foo.bar.test") = false := by
  decide +kernel
example : coversValue true (.text "*.test") (.text "foo.test") = false := by decide +kernel

end PeerName.Host
