import PeerName.Proofs.Host.WholeName

/-!
# The star of a pattern

A pattern covers the hosts that it spells whether or not stars stand for labels, and a star in front
can only add hosts.  It adds some exactly when nothing behind it stands in the way: a host has no
star, so a pattern with a second one covers nothing at all.  A pattern that gains no host from its
star covers one name at most, in capitals or small letters.

* `covers_false_iff`, `covers_of_covers_false` — the hosts that a pattern spells;
* `isWildcard_of_covers` — a pattern that covers other hosts begins with a star for a label;
* `coversValue_of_tighter`, `isWildcardValue_of_lost` — stars turned off, for values of any kind;
* `Gains` — a host that is covered only by the star;
* `isDotted_append_iff` — a name with a label in front;
* `gains_host_iff` — **which patterns gain hosts**, and what is left of those that do not.
-/

namespace PeerName.Host

/-- Where stars stand for nothing, a pattern covers the hosts that it spells. -/
theorem covers_false_iff (pattern host : String) :
    covers false pattern host = true ↔ '*' ∉ host.toList ∧ IsDotted pattern ∧ IsDotted host ∧
      smallPieces pattern = smallPieces host := by
  rw [covers_iff_labels, coversLabels_iff]
  simp

/-- A pattern covers the hosts that it spells whether or not stars stand for anything. -/
theorem covers_of_covers_false {pattern host : String} (h : covers false pattern host = true)
    (wildcards : Bool) : covers wildcards pattern host = true := by
  obtain ⟨hstar, hpattern, hhost, heq⟩ := (covers_false_iff pattern host).mp h
  rw [covers_iff_labels, coversLabels_iff]
  exact ⟨hstar, hpattern, hhost, Or.inl heq⟩

theorem isWildcard_iff (pattern : String) :
    isWildcard pattern = true ↔ IsDotted pattern ∧ startsWithStar (smallPieces pattern) = true := by
  rw [isWildcard]
  split
  · rename_i labels hlabels
    obtain ⟨hdotted, rfl⟩ := (labels?_fold_eq_some_iff pattern labels).mp hlabels
    exact (and_iff_right hdotted).symm
  · rename_i hnone
    refine iff_of_false Bool.false_ne_true ?_
    rintro ⟨hdotted, -⟩
    have hsome := (labels?_fold_eq_some_iff pattern _).mpr ⟨hdotted, rfl⟩
    rw [hnone] at hsome
    cases hsome

/-- A pattern that covers a host which it does not spell begins with a star for a label. -/
theorem isWildcard_of_covers {wildcards : Bool} {pattern host : String}
    (h : covers wildcards pattern host = true) (hliteral : covers false pattern host = false) :
    isWildcard pattern = true := by
  obtain ⟨hstar, hpattern, hhost, hlabels⟩ := (covers_iff_labels wildcards pattern host).mp h
  rcases (coversLabels_iff _ _ _).mp hlabels with heq | ⟨-, label, rest, hpieces, -, hlength⟩
  · have hcovers := (covers_false_iff pattern host).mpr ⟨hstar, hpattern, hhost, heq⟩
    rw [hliteral] at hcovers
    exact absurd hcovers Bool.false_ne_true
  · rw [isWildcard_iff, startsWithStar_iff]
    exact ⟨hpattern, rest, hpieces, hlength⟩

/-- Stars only add hosts. -/
theorem coversValue_of_tighter {strict loose : Bool} (himp : strict = true → loose = true)
    {name host : Value} (h : coversValue strict name host = true) :
    coversValue loose name host = true := by
  cases strict with
  | true => rwa [himp rfl]
  | false =>
    cases name with
    | text pattern =>
      cases host with
      | text host => exact covers_of_covers_false h loose
      | _ => exact absurd h Bool.false_ne_true
    | _ => exact absurd h Bool.false_ne_true

/-- A pattern that no longer covers a host under a tighter policy begins with a star for a label,
and it is the stars that were turned off. -/
theorem isWildcardValue_of_lost {strict loose : Bool} (himp : strict = true → loose = true)
    {name host : Value} (h : coversValue loose name host = true)
    (hlost : coversValue strict name host = false) :
    strict = false ∧ isWildcardValue name = true := by
  have hoff : strict = false := by
    cases strict with
    | false => rfl
    | true =>
      rw [himp rfl, hlost] at h
      exact h.symm
  subst hoff
  refine ⟨rfl, ?_⟩
  cases name with
  | text pattern =>
    cases host with
    | text host => exact isWildcard_of_covers h hlost
    | _ => exact absurd h Bool.false_ne_true
  | _ => exact absurd h Bool.false_ne_true

/-! ### Hosts that a star adds -/

/-- The pattern covers the host where stars stand for labels, and does not spell it. -/
def Gains (pattern host : String) : Prop :=
  covers true pattern host = true ∧ covers false pattern host = false

variable {pattern host : String}

/-- A host that a star adds has a label of its own in the place of the star. -/
theorem Gains.widens (h : Gains pattern host) : Widens pattern host := by
  obtain ⟨hcovers, hliteral⟩ := h
  obtain ⟨hstar, hpattern, hhost, hsame | ⟨-, hwidens⟩⟩ :=
    (covers_iff_covered true pattern host).mp hcovers
  · have hspelled : covers false pattern host = true :=
      (covers_iff_covered false pattern host).mpr ⟨hstar, hpattern, hhost, Or.inl hsame⟩
    rw [hliteral] at hspelled
    exact absurd hspelled Bool.false_ne_true
  · exact hwidens

/-- A pattern that gains a host has no star behind its first character, since the host has none. -/
theorem Gains.star_notMem (h : Gains pattern host) : '*' ∉ pattern.toList.tail := by
  obtain ⟨hstar, -⟩ := (covers_iff_covered true pattern host).mp h.1
  obtain ⟨label, rest, tail, rfl, rfl, -, -, -, hsame⟩ := h.widens
  have hbehind : ("*." ++ rest).toList.tail = '.' :: rest.toList := by
    rw [String.toList_append]
    rfl
  rw [hbehind, List.mem_cons, not_or]
  refine ⟨by decide, fun hmem => hstar ?_⟩
  have htail := mem_of_toLower_eq hsame (by decide) hmem
  rw [String.toList_append]
  exact List.mem_append_right _ htail

/-- A name with a label in front is a name exactly when both parts are. -/
theorem isDotted_append_iff {label tail : String} (h : '.' ∉ label.toList) :
    IsDotted (label ++ "." ++ tail) ↔ label ≠ "" ∧ IsDotted tail := by
  have hdot : ".".toList = ['.'] := rfl
  have hempty : label = "" ↔ [] = label.toList := by
    rw [← String.toList_inj]
    exact eq_comm
  rw [isDotted_iff, isDotted_iff, String.toList_append, String.toList_append, hdot,
    List.append_assoc, List.singleton_append, splitDots, Text.pieces_append_cons h, List.mem_cons,
    not_or, ← hempty]
  exact Iff.rfl

/-- **A star with no other star behind it adds a host**: any label can take its place. -/
theorem exists_gains (hstar : isWildcard pattern = true) (hnone : '*' ∉ pattern.toList.tail) :
    ∃ host, Gains pattern host := by
  obtain ⟨hpattern, hlabels⟩ := (isWildcard_iff pattern).mp hstar
  obtain ⟨rest, hpieces, hlength⟩ := (startsWithStar_iff _).mp hlabels
  have hne : rest ≠ [] := List.ne_nil_of_length_pos (by omega)
  obtain ⟨first, tail, rfl, -, hfirst, htail⟩ := exists_of_smallPieces_eq_cons hpieces hne
  obtain rfl : first = "*" := String.toList_inj.mp (eq_star_of_fold_eq hfirst)
  have hdotted : IsDotted tail := ((isDotted_append_iff (by decide)).mp hpattern).2
  have htailStar : '*' ∉ tail.toList := by
    intro hmem
    apply hnone
    rw [String.toList_append]
    exact List.mem_cons_of_mem _ hmem
  have hhost : IsDotted ("x" ++ "." ++ tail) :=
    (isDotted_append_iff (by decide)).mpr ⟨by decide, hdotted⟩
  have hhostStar : '*' ∉ ("x" ++ "." ++ tail).toList := by
    rw [String.toList_append, List.mem_append, not_or]
    exact ⟨by decide, htailStar⟩
  refine ⟨"x" ++ "." ++ tail, ?_, ?_⟩
  · have hdot : '.' ∈ tail.toList := (two_le_length_smallPieces_iff tail).mp (by rwa [htail])
    exact (covers_iff_covered true _ _).mpr ⟨hhostStar, hpattern, hhost,
      Or.inr ⟨rfl, "x", tail, tail, rfl, rfl, by decide, by decide, hdot, rfl⟩⟩
  · -- the first labels are a star and a letter
    rw [← Bool.not_eq_true, covers_false_iff]
    rintro ⟨-, -, -, hsame⟩
    rw [smallPieces_append _ _ (by decide), smallPieces_append _ _ (by decide)] at hsame
    exact absurd (List.cons.inj hsame).1 (by decide)

/-- A pattern that gains no host spells every host that it covers. -/
theorem toLower_eq_of_covers (hnone : ¬∃ host, Gains pattern host) {wildcards : Bool}
    (h : covers wildcards pattern host = true) : pattern.toLower = host.toLower := by
  have hspelled : covers false pattern host = true := by
    cases wildcards with
    | false => exact h
    | true =>
      cases hliteral : covers false pattern host with
      | true => rfl
      | false => exact absurd ⟨host, h, hliteral⟩ hnone
  obtain ⟨-, -, -, hsame⟩ := (covers_false_iff pattern host).mp hspelled
  exact (toLower_eq_iff pattern host).mpr hsame

/-- **Which patterns gain hosts.**  There is a host that a pattern covers only because stars stand
for labels exactly when the pattern begins with a star for a label and has no star behind its first
character.  If there is no such host, then all hosts that the pattern covers, with stars or without,
are one name up to capitals. -/
theorem gains_host_iff (pattern : String) :
    ((∃ host, covers true pattern host = true ∧ covers false pattern host = false) ↔
      isWildcard pattern = true ∧ '*' ∉ pattern.toList.tail) ∧
    ((¬∃ host, covers true pattern host = true ∧ covers false pattern host = false) →
      ∀ (first second : String) (wildcards wildcards' : Bool),
        covers wildcards pattern first = true → covers wildcards' pattern second = true →
        first.toLower = second.toLower) := by
  refine ⟨⟨?_, ?_⟩, ?_⟩
  · rintro ⟨host, hgains⟩
    exact ⟨isWildcard_of_covers hgains.1 hgains.2, Gains.star_notMem hgains⟩
  · rintro ⟨hstar, hnone⟩
    exact exists_gains hstar hnone
  · intro hnone first second wildcards wildcards' hfirst hsecond
    rw [← toLower_eq_of_covers hnone hfirst, ← toLower_eq_of_covers hnone hsecond]

-- A second star is an ordinary character, and no host has it.
example : isWildcard "*.f*o.test" = true ∧ covers true "*.f*o.test" "a.foo.test" = false := by
  decide

end PeerName.Host
