import PeerName.Text.Lines

/-!
# Cutting a text into pieces

Cutting at a separator and joining with it are inverse to each other: the pieces of a text hold no
separator and join to the text, and pieces without separators are found again in what they join to.
Both directions rest on one step, `pieces_append_cons`: a piece in front of a separator is cut off
as it stands.

* `pieces_append_cons`, `pieces_of_notMem` — the first piece, and the only one;
* `intercalate_pieces`, `notMem_of_mem_pieces` — what the pieces are;
* `pieces_join`, `pieces_intercalate` — the pieces of joined texts;
* `length_pieces` — there is one piece more than there are separators;
* `pieces_map` — a change of characters that leaves the separators alone changes the pieces;
* `nil_mem_pieces_iff` — where an empty piece comes from.
-/

namespace PeerName.Text

variable {sep : Char}

theorem pieces_ne_nil (sep : Char) (s : List Char) : pieces sep s ≠ [] := by
  induction s with
  | nil => simp [pieces]
  | cons c s ih =>
    rw [pieces]
    split
    · simp
    · split <;> simp

/-- The pieces of a text that begins with a separator. -/
theorem pieces_cons_self (s : List Char) : pieces sep (sep :: s) = [] :: pieces sep s := by
  rw [pieces, if_pos rfl]

/-- A character that does not separate belongs to the first piece. -/
theorem pieces_cons_of_ne {c : Char} (hc : c ≠ sep) {s piece : List Char} {rest : List (List Char)}
    (h : pieces sep s = piece :: rest) : pieces sep (c :: s) = (c :: piece) :: rest := by
  rw [pieces, if_neg hc, h]

theorem pieces_of_notMem {s : List Char} (h : sep ∉ s) : pieces sep s = [s] := by
  induction s with
  | nil => rfl
  | cons c s ih =>
    obtain ⟨hc, hs⟩ := List.ne_and_not_mem_of_not_mem_cons h
    exact pieces_cons_of_ne (Ne.symm hc) (ih hs)

/-- **A piece is cut off in front of the separator behind it.** -/
theorem pieces_append_cons {piece : List Char} (h : sep ∉ piece) (s : List Char) :
    pieces sep (piece ++ sep :: s) = piece :: pieces sep s := by
  induction piece with
  | nil => exact pieces_cons_self s
  | cons c piece ih =>
    obtain ⟨hc, hp⟩ := List.ne_and_not_mem_of_not_mem_cons h
    exact pieces_cons_of_ne (Ne.symm hc) (ih hp)

/-- Every text is one piece, or a piece with a separator and a text behind it. -/
theorem notMem_or_eq_append (sep : Char) (s : List Char) :
    sep ∉ s ∨ ∃ piece tail, sep ∉ piece ∧ s = piece ++ sep :: tail := by
  by_cases h : sep ∈ s
  · obtain ⟨piece, tail, hs, hp⟩ := List.eq_append_cons_of_mem h
    exact Or.inr ⟨piece, tail, hp, hs⟩
  · exact Or.inl h

/-- Cutting follows the pieces: what holds of a single piece, and of a piece in front of a text of
which it holds, holds of every text. -/
theorem pieces_induction (sep : Char) {motive : List Char → Prop} (single : ∀ s, sep ∉ s → motive s)
    (step : ∀ piece tail, sep ∉ piece → motive tail → motive (piece ++ sep :: tail))
    (s : List Char) : motive s := by
  induction hn : s.length using Nat.strongRecOn generalizing s with
  | ind n ih =>
    rcases notMem_or_eq_append sep s with hs | ⟨piece, tail, hp, rfl⟩
    · exact single s hs
    · have hlt : tail.length < n := by
        rw [← hn, List.length_append, List.length_cons]
        omega
      exact step piece tail hp (ih tail.length hlt tail rfl)

/-- The pieces in front of any separator are those of the text in front of it. -/
theorem pieces_append (s t : List Char) :
    pieces sep (s ++ sep :: t) = pieces sep s ++ pieces sep t := by
  induction s using pieces_induction sep with
  | single s hs => rw [pieces_append_cons hs, pieces_of_notMem hs, List.singleton_append]
  | step piece tail hp ih =>
    rw [List.append_assoc, List.cons_append, pieces_append_cons hp, ih, pieces_append_cons hp,
      List.cons_append]

/-- Joining the pieces gives the text back. -/
theorem intercalate_pieces (sep : Char) (s : List Char) :
    [sep].intercalate (pieces sep s) = s := by
  induction s using pieces_induction sep with
  | single s hs => rw [pieces_of_notMem hs, List.intercalate_singleton]
  | step piece tail hp ih =>
    rw [pieces_append_cons hp, List.intercalate_cons_of_ne_nil (pieces_ne_nil sep tail), ih,
      List.append_assoc, List.singleton_append]

/-- Texts with the same pieces are equal. -/
theorem pieces_injective (sep : Char) : Function.Injective (pieces sep) := by
  intro s t h
  rw [← intercalate_pieces sep s, h, intercalate_pieces]

theorem notMem_of_mem_pieces {s piece : List Char} (h : piece ∈ pieces sep s) : sep ∉ piece := by
  induction s using pieces_induction sep with
  | single s hs =>
    rw [pieces_of_notMem hs, List.mem_singleton] at h
    rwa [h]
  | step first tail hp ih =>
    rw [pieces_append_cons hp, List.mem_cons] at h
    rcases h with rfl | h
    · exact hp
    · exact ih h

/-- The pieces of joined texts are the pieces of each of them, in order. -/
theorem pieces_join {parts : List (List Char)} (hne : parts ≠ []) :
    pieces sep ([sep].intercalate parts) = parts.flatMap (pieces sep) := by
  induction parts with
  | nil => exact absurd rfl hne
  | cons part parts ih =>
    rcases List.eq_nil_or_concat parts with rfl | ⟨_, _, hparts⟩
    · rw [List.intercalate_singleton, List.flatMap_singleton]
    · have hparts : parts ≠ [] := by simp [hparts]
      rw [List.intercalate_cons_of_ne_nil hparts, List.append_assoc, List.singleton_append,
        pieces_append, ih hparts, List.flatMap_cons]

/-- Texts without separators are found again in what they join to. -/
theorem pieces_intercalate {parts : List (List Char)} (hne : parts ≠ [])
    (h : ∀ part ∈ parts, sep ∉ part) : pieces sep ([sep].intercalate parts) = parts := by
  have hsingle : parts.map (pieces sep) = parts.map fun part => [part] :=
    List.map_congr_left fun part hpart => pieces_of_notMem (h part hpart)
  rw [pieces_join hne, List.flatMap_def, hsingle, ← List.flatMap_def, List.flatMap_singleton']

/-- A first piece that is not the only one stands in front of a separator. -/
theorem eq_append_of_pieces_eq_cons {s piece : List Char} {rest : List (List Char)}
    (h : pieces sep s = piece :: rest) (hne : rest ≠ []) :
    ∃ tail, s = piece ++ sep :: tail ∧ pieces sep tail = rest := by
  rcases notMem_or_eq_append sep s with hs | ⟨first, tail, hfirst, rfl⟩
  · rw [pieces_of_notMem hs, List.cons.injEq] at h
    exact absurd h.2.symm hne
  · rw [pieces_append_cons hfirst, List.cons.injEq] at h
    exact ⟨tail, by rw [h.1], h.2⟩

/-- There is one piece more than there are separators. -/
theorem length_pieces (sep : Char) (s : List Char) :
    (pieces sep s).length = s.count sep + 1 := by
  induction s using pieces_induction sep with
  | single s hs => rw [pieces_of_notMem hs, List.count_eq_zero.mpr hs, List.length_singleton]
  | step piece tail hp ih =>
    rw [pieces_append_cons hp, List.length_cons, ih, List.count_append, List.count_cons_self,
      List.count_eq_zero.mpr hp, Nat.zero_add]

/-- A change of characters that leaves the separators alone changes every piece by itself. -/
theorem pieces_map {f : Char → Char} (hf : ∀ c, f c = sep ↔ c = sep) (s : List Char) :
    pieces sep (s.map f) = (pieces sep s).map (List.map f) := by
  have hmap {piece : List Char} (hp : sep ∉ piece) : sep ∉ piece.map f := by
    intro hmem
    obtain ⟨c, hc, hfc⟩ := List.mem_map.mp hmem
    rw [(hf c).mp hfc] at hc
    exact hp hc
  induction s using pieces_induction sep with
  | single s hs => rw [pieces_of_notMem hs, pieces_of_notMem (hmap hs), List.map_singleton]
  | step piece tail hp ih =>
    rw [List.map_append, List.map_cons, (hf sep).mpr rfl, pieces_append_cons (hmap hp),
      pieces_append_cons hp, ih, List.map_cons]

/-- **Where an empty piece comes from**: the text is empty, or it begins or ends with a separator,
or two separators stand side by side. -/
theorem nil_mem_pieces_iff (s : List Char) :
    [] ∈ pieces sep s ↔ s = [] ∨ (∃ t, s = sep :: t) ∨ (∃ t, s = t ++ [sep])
      ∨ ∃ t u, s = t ++ sep :: sep :: u := by
  constructor
  · induction s using pieces_induction sep with
    | single s hs =>
      rw [pieces_of_notMem hs, List.mem_singleton]
      exact fun h => Or.inl h.symm
    | step piece tail hp ih =>
      rw [pieces_append_cons hp, List.mem_cons]
      rintro (rfl | h)
      · exact Or.inr (Or.inl ⟨tail, rfl⟩)
      · rcases ih h with rfl | ⟨t, rfl⟩ | ⟨t, rfl⟩ | ⟨t, u, rfl⟩
        · exact Or.inr (Or.inr (Or.inl ⟨piece, rfl⟩))
        · exact Or.inr (Or.inr (Or.inr ⟨piece, t, rfl⟩))
        · exact Or.inr (Or.inr (Or.inl ⟨piece ++ sep :: t, by simp⟩))
        · exact Or.inr (Or.inr (Or.inr ⟨piece ++ sep :: t, u, by simp⟩))
  · rintro (rfl | ⟨t, rfl⟩ | ⟨t, rfl⟩ | ⟨t, u, rfl⟩)
    · exact List.mem_singleton_self []
    · rw [pieces_cons_self]
      exact List.mem_cons_self
    · rw [pieces_append]
      exact List.mem_append_right _ (List.mem_singleton_self [])
    · rw [pieces_append, pieces_cons_self]
      exact List.mem_append_right _ List.mem_cons_self

end PeerName.Text
