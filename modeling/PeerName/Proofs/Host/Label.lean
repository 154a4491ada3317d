import PeerName.Host.Pattern
import PeerName.Proofs.Text.Pieces

/-!
# The labels of a name

Making the capitals of a name small commutes with cutting it at its dots, since no letter becomes a
dot.  A name has labels exactly when none of the pieces between its dots is empty.

* `lowerAscii_eq_toLower` — the small form of a character is that of the standard library;
* `splitDots_fold`, `labels?_fold` — cutting commutes with making small;
* `labels?_eq_some_iff` — when a name has labels, and which;
* `isDotted_iff` — the same on the whole name, without cutting it.
-/

namespace PeerName.Unicode

/-- A character is found again from its number. -/
theorem ofNat_eq_of_val {v : UInt32} {c : Char} (h : c.val = v) : Char.ofNat v.toNat = c := by
  rw [← h]
  exact Char.ofNat_toNat c

/-- The number of a capital can be raised to that of its small letter. -/
theorem toNat_raised {c : Char} (h : c.val ≤ 'Z'.val) :
    (c.val + ('a'.val - 'A'.val)).toNat = c.toNat + 32 := by
  have hc : c.val.toNat ≤ 90 := h
  rw [UInt32.toNat_add]
  exact Nat.mod_eq_of_lt (show c.val.toNat + 32 < 2 ^ 32 by omega)

theorem val_toLower {c : Char} (h : c.val ≥ 'A'.val ∧ c.val ≤ 'Z'.val) :
    c.toLower.val = c.val + ('a'.val - 'A'.val) :=
  congrArg Char.val (dif_pos h)

theorem toLower_eq_self {c : Char} (h : ¬(c.val ≥ 'A'.val ∧ c.val ≤ 'Z'.val)) : c.toLower = c :=
  dif_neg h

theorem lowerAscii_eq_toLower (c : Char) : lowerAscii c = c.toLower := by
  rw [lowerAscii]
  by_cases h : c.val ≥ 'A'.val ∧ c.val ≤ 'Z'.val
  · rw [if_pos (show 'A' ≤ c ∧ c ≤ 'Z' from h), ← toNat_raised h.2]
    exact ofNat_eq_of_val (val_toLower h)
  · rw [if_neg (show ¬('A' ≤ c ∧ c ≤ 'Z') from h), toLower_eq_self h]

/-- Only a character itself has a small form that is no letter. -/
theorem lowerAscii_eq_iff {c d : Char} (hd : d.toNat < 'A'.toNat ∨ 'z'.toNat < d.toNat) :
    lowerAscii c = d ↔ c = d := by
  rw [lowerAscii_eq_toLower]
  by_cases h : c.val ≥ 'A'.val ∧ c.val ≤ 'Z'.val
  · have hlow : 'A'.toNat ≤ c.toNat := h.1
    have hhigh : c.toNat ≤ 'Z'.toNat := h.2
    have hz : 'Z'.toNat + 32 = 'z'.toNat := rfl
    have hlower : c.toLower.toNat = c.toNat + 32 :=
      (congrArg UInt32.toNat (val_toLower h)).trans (toNat_raised h.2)
    rw [← Char.toNat_inj, ← Char.toNat_inj, hlower]
    omega
  · rw [toLower_eq_self h]

end PeerName.Unicode

namespace PeerName.Host

theorem fold_eq_map_toLower (s : List Char) : fold s = s.map Char.toLower :=
  List.map_congr_left fun c _ => Unicode.lowerAscii_eq_toLower c

theorem fold_append (s t : List Char) : fold (s ++ t) = fold s ++ fold t := List.map_append

theorem fold_eq_nil_iff (s : List Char) : fold s = [] ↔ s = [] := List.map_eq_nil_iff

/-- Making small neither brings in nor takes out a character that is no letter. -/
theorem mem_fold_iff {d : Char} (hd : d.toNat < 'A'.toNat ∨ 'z'.toNat < d.toNat) (s : List Char) :
    d ∈ fold s ↔ d ∈ s := by
  rw [fold, List.mem_map]
  constructor
  · rintro ⟨c, hc, hcd⟩
    rwa [← (Unicode.lowerAscii_eq_iff hd).mp hcd]
  · exact fun h => ⟨d, h, (Unicode.lowerAscii_eq_iff hd).mpr rfl⟩

/-- Cutting at the dots commutes with making small. -/
theorem splitDots_fold (s : List Char) : splitDots (fold s) = (splitDots s).map fold :=
  Text.pieces_map (fun _ => Unicode.lowerAscii_eq_iff (by decide)) s

/-- **A name has labels exactly when none of the pieces between its dots is empty**, and they are
these pieces. -/
theorem labels?_eq_some_iff (s : List Char) (labels : List (List Char)) :
    labels? s = some labels ↔ splitDots s = labels ∧ [] ∉ splitDots s := by
  have hany : (splitDots s).any List.isEmpty = true ↔ [] ∈ splitDots s := by
    simp only [List.any_eq_true, List.isEmpty_iff, exists_eq_right]
  rw [labels?]
  split
  · rename_i h
    exact iff_of_false (nomatch ·) fun hlabels => hlabels.2 (hany.mp h)
  · rename_i h
    rw [Option.some_inj]
    exact ⟨fun heq => ⟨heq, fun hmem => h (hany.mpr hmem)⟩, fun hlabels => hlabels.1⟩

theorem labels?_fold (s : List Char) : labels? (fold s) = (labels? s).map (List.map fold) := by
  have hempty : ((splitDots s).map fold).any List.isEmpty = (splitDots s).any List.isEmpty := by
    rw [List.any_map]
    congr 1
    funext label
    rw [Bool.eq_iff_iff, Function.comp_apply, List.isEmpty_iff, List.isEmpty_iff, fold_eq_nil_iff]
  rw [labels?, labels?, splitDots_fold, hempty]
  split <;> rfl

/-! ### The same on the whole name -/

/-- A name that is not empty, with a character on both sides of every dot and no two dots side by
side. -/
def IsDotted (name : String) : Prop :=
  name ≠ "" ∧ (∀ t, name ≠ "." ++ t) ∧ (∀ t, name ≠ t ++ ".") ∧ ∀ t u, name ≠ t ++ ".." ++ u

/-- A statement about some text is one about the characters of some text. -/
theorem exists_text_iff {p : List Char → Prop} : (∃ t, p t) ↔ ∃ t : String, p t.toList :=
  ⟨fun ⟨t, h⟩ => ⟨String.ofList t, by rwa [String.toList_ofList]⟩, fun ⟨t, h⟩ => ⟨t.toList, h⟩⟩

theorem isDotted_iff (name : String) : IsDotted name ↔ [] ∉ splitDots name.toList := by
  have hdot : ".".toList = ['.'] := rfl
  have hdots : "..".toList = ['.', '.'] := rfl
  rw [splitDots, Text.nil_mem_pieces_iff]
  simp only [IsDotted, ne_eq, ← String.toList_inj, String.toList_append, hdot, hdots, not_or,
    not_exists, exists_text_iff, List.append_assoc, List.cons_append, List.nil_append]
  exact Iff.rfl

end PeerName.Host
