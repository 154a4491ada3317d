import Mathlib.Data.List.Forall2
import PeerName.Proofs.Host.Label

/-!
# Names as joins of labels

A name is cut into labels at its dots, and labels are joined to a name with dots between them.  The
two undo each other.  What a name is cut into joins to the name again; labels that are not empty and
have no dots in them are found again in the name that they join to; and a name is refused only if it
is the join of no such labels.  So the labels of a name are determined by the name alone, also where
dots stand at its ends or side by side.  Making capitals small does not interfere with any of this:
it changes letters one by one, and no letter is a dot.

* `AreLabels` — what a name can be joined from;
* `labels?_eq_some_iff_join`, `splitLabels_eq_some_iff` — which labels a name has;
* `splitLabels_eq_none_iff` — when it has none;
* `splitLabels_normalize` — the labels of a name made small;
* `SmallForm`, `forall₂_normalize` — what becomes of each character;
* `splitLabels_undoes_join` — **cutting and joining undo each other, and commute with making
  small**.
-/

namespace PeerName.Host

/-- What a name can be joined from: one label or more, none of them empty, none with a dot in it. -/
structure AreLabels (labels : List String) : Prop where
  ne_nil : labels ≠ []
  ne_empty : ∀ label ∈ labels, label ≠ ""
  dotless : ∀ label ∈ labels, '.' ∉ label.toList

/-! ### Cutting and joining -/

/-- On characters: the labels of a name are the parts without dots that join to it, none of them
empty. -/
theorem labels?_eq_some_iff_join (s : List Char) (parts : List (List Char)) :
    labels? s = some parts ↔
      parts ≠ [] ∧ [] ∉ parts ∧ (∀ part ∈ parts, '.' ∉ part) ∧ ['.'].intercalate parts = s := by
  rw [labels?_eq_some_iff]
  constructor
  · rintro ⟨rfl, hempty⟩
    exact ⟨Text.pieces_ne_nil '.' s, hempty, fun part hpart => Text.notMem_of_mem_pieces hpart,
      Text.intercalate_pieces '.' s⟩
  · rintro ⟨hne, hempty, hdotless, rfl⟩
    have hpieces : splitDots (['.'].intercalate parts) = parts :=
      Text.pieces_intercalate hne hdotless
    rw [hpieces]
    exact ⟨rfl, hempty⟩

theorem splitLabels_eq_some_iff_labels? (name : String) (labels : List String) :
    splitLabels name = some labels ↔ labels? name.toList = some (labels.map String.toList) := by
  rw [splitLabels, Option.map_eq_some_iff]
  constructor
  · rintro ⟨parts, hparts, rfl⟩
    have hback : (parts.map String.ofList).map String.toList = parts := by
      simp [Function.comp_def]
    rw [hback, hparts]
  · intro h
    refine ⟨labels.map String.toList, h, ?_⟩
    simp [Function.comp_def]

/-- Labels as texts and as lists of characters. -/
theorem areLabels_iff (labels : List String) :
    AreLabels labels ↔ labels.map String.toList ≠ [] ∧ [] ∉ labels.map String.toList ∧
      ∀ part ∈ labels.map String.toList, '.' ∉ part := by
  have hne : labels.map String.toList ≠ [] ↔ labels ≠ [] := by simp
  have hempty : [] ∉ labels.map String.toList ↔ ∀ label ∈ labels, label ≠ "" := by
    simp only [List.mem_map, String.toList_eq_nil_iff, not_exists, not_and, ne_eq]
  rw [hne, hempty, List.forall_mem_map]
  exact ⟨fun h => ⟨h.ne_nil, h.ne_empty, h.dotless⟩, fun h => ⟨h.1, h.2.1, h.2.2⟩⟩

/-- **The labels of a name are those that join to it.** -/
theorem splitLabels_eq_some_iff (name : String) (labels : List String) :
    splitLabels name = some labels ↔ AreLabels labels ∧ ".".intercalate labels = name := by
  have hjoin : ".".intercalate labels = name ↔
      ['.'].intercalate (labels.map String.toList) = name.toList := by
    rw [← String.toList_inj, String.toList_intercalate]
    exact Iff.rfl
  rw [splitLabels_eq_some_iff_labels?, labels?_eq_some_iff_join, areLabels_iff, hjoin]
  simp only [and_assoc]

/-- A name has no labels exactly when no labels join to it. -/
theorem splitLabels_eq_none_iff (name : String) :
    splitLabels name = none ↔ ¬∃ labels, AreLabels labels ∧ ".".intercalate labels = name := by
  rw [Option.eq_none_iff_forall_ne_some, not_exists]
  exact forall_congr' fun labels => not_congr (splitLabels_eq_some_iff name labels)

/-- A text is cut without fail. -/
theorem splitValue_text (name : String) : splitValue (.text name) = .ok (splitLabels name) := by
  by_cases hname : name = ""
  · subst hname
    rfl
  · have htruthy : (Value.text name).isTruthy = true := bne_iff_ne.mpr hname
    rw [splitValue, htruthy]
    rfl

/-! ### Making small -/

/-- The small form of a character: 32 places on if it is an ASCII capital, and otherwise the
character itself. -/
def SmallForm (c d : Char) : Prop :=
  if 'A' ≤ c ∧ c ≤ 'Z' then d.toNat = c.toNat + 32 else d = c

theorem smallForm_lowerAscii (c : Char) : SmallForm c (Unicode.lowerAscii c) := by
  rw [SmallForm]
  split
  next h =>
    rw [Unicode.lowerAscii_eq_toLower]
    have hlower : c.toLower.toNat = (c.val + ('a'.val - 'A'.val)).toNat :=
      congrArg UInt32.toNat (Unicode.val_toLower h)
    rw [hlower, Unicode.toNat_raised h.2]
  next h => rw [Unicode.lowerAscii, if_neg h]

/-- Every character of a name becomes its small form. -/
theorem forall₂_normalize (name : String) :
    List.Forall₂ SmallForm name.toList (normalize name).toList := by
  rw [normalize, String.toList_ofList, fold, List.forall₂_map_right_iff, List.forall₂_same]
  exact fun c _ => smallForm_lowerAscii c

/-- A small form is no capital. -/
theorem lowerAscii_lowerAscii (c : Char) :
    Unicode.lowerAscii (Unicode.lowerAscii c) = Unicode.lowerAscii c := by
  by_cases h : 'A' ≤ c ∧ c ≤ 'Z'
  · have hsmall := smallForm_lowerAscii c
    rw [SmallForm, if_pos h] at hsmall
    have hlow : 'A'.toNat ≤ c.toNat := h.1
    have hZ : 'Z'.toNat < 'A'.toNat + 32 := by decide
    have hcapital : ¬('A' ≤ Unicode.lowerAscii c ∧ Unicode.lowerAscii c ≤ 'Z') := by
      rintro ⟨-, hhigh⟩
      have hhigh : (Unicode.lowerAscii c).toNat ≤ 'Z'.toNat := hhigh
      omega
    rw [Unicode.lowerAscii, if_neg hcapital]
  · have hself : Unicode.lowerAscii c = c := if_neg h
    rw [hself, hself]

theorem normalize_normalize (name : String) : normalize (normalize name) = normalize name := by
  rw [normalize, normalize, String.toList_ofList, fold, fold, List.map_map]
  exact congrArg String.ofList (List.map_congr_left fun c _ => lowerAscii_lowerAscii c)

/-- The labels of a name made small are the labels of the name, each made small. -/
theorem splitLabels_normalize (name : String) :
    splitLabels (normalize name) = (splitLabels name).map (List.map normalize) := by
  rw [splitLabels, splitLabels, normalize, String.toList_ofList, labels?_fold, Option.map_map,
    Option.map_map]
  apply Option.map_congr
  intro parts _
  simp [normalize, Function.comp_def]

/-! ### The law -/

/-- **Cutting and joining undo each other, and commute with making small.**  A text is always cut.
It has these labels exactly when they are labels and join to it with dots, and it has none exactly
when there are no labels that join to it.  Made small, it has the same labels, each made small.
Making small a second time changes nothing, and of the single characters only the ASCII capitals are
changed. -/
theorem splitLabels_undoes_join (name : String) :
    splitValue (.text name) = .ok (splitLabels name) ∧
    (∀ labels, splitLabels name = some labels ↔
      AreLabels labels ∧ ".".intercalate labels = name) ∧
    (splitLabels name = none ↔ ¬∃ labels, AreLabels labels ∧ ".".intercalate labels = name) ∧
    splitLabels (normalize name) = (splitLabels name).map (List.map normalize) ∧
    normalize (normalize name) = normalize name ∧
    List.Forall₂ SmallForm name.toList (normalize name).toList :=
  ⟨splitValue_text name, splitLabels_eq_some_iff name, splitLabels_eq_none_iff name,
    splitLabels_normalize name, normalize_normalize name, forall₂_normalize name⟩

-- The pieces of a name with a dot at its end are not labels.
example : splitLabels "Www.foo.test" = some ["Www", "foo", "test"] := by decide +kernel
example : splitLabels "foo.test." = none := by decide +kernel

end PeerName.Host
