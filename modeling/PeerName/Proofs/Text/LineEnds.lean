import PeerName.Proofs.Value.Quoted

/-!
# Where lines end

A text is divided into lines at the line feeds, or at other characters besides.  Whatever counts as
the end of a line is not printable; so printable text is never divided, and what is printed line by
line is found again line by line as long as nothing in it ends a line by itself.

* `LineEnds`, `LineEnds.feeds`, `LineEnds.unicode` — what counts as the end of a line;
* `LineEnds.lines` — the lines of a text;
* `LineEnds.Clear` — a text without line ends;
* `LineEnds.lines_append_feed`, `LineEnds.length_lines_feed` — a text with a line feed behind it;
* `LineEnds.lines_join` — **what is printed line by line**.
-/

namespace PeerName.Text

/-- What counts as the end of a line: the line feed, and perhaps other characters that are not
printable. -/
structure LineEnds where
  ends : Char → Bool
  feed : ends '\n' = true
  unprintable : ∀ c, ends c = true → Unicode.isPrintable c = false

namespace LineEnds

/-- Lines end at line feeds only. -/
def feeds : LineEnds where
  ends c := c == '\n'
  feed := rfl
  unprintable := by
    intro c hc
    rw [beq_iff_eq.mp hc]
    decide

/-- The characters besides the line feed at which Unicode ends a line: the other separators among
the control characters, and the separators of lines and of paragraphs. -/
def separators : List Char :=
  [0x0b, 0x0c, 0x0d, 0x1c, 0x1d, 0x1e, 0x85, 0x2028, 0x2029].map Char.ofNat

/-- Lines end at every character at which Unicode ends them. -/
def unicode : LineEnds where
  ends c := ('\n' :: separators).contains c
  feed := by decide
  unprintable := by
    intro c hc
    have hall : ('\n' :: separators).all (!Unicode.isPrintable ·) = true := by decide +kernel
    have hhidden := List.all_eq_true.mp hall c (List.contains_iff_mem.mp hc)
    exact (Bool.not_eq_true' _).mp hhidden

variable (e : LineEnds)

/-- The lines of a text; what stands behind the last line end is a line if it is not empty. -/
def lines : List Char → List (List Char)
  | [] => []
  | c :: s =>
    if e.ends c then [] :: lines s
    else match lines s with
      | [] => [[c]]
      | line :: rest => (c :: line) :: rest

/-- A text without line ends. -/
def Clear (s : String) : Prop := ∀ c ∈ s.toList, e.ends c = false

variable {e} {s t : String} {c : Char}

/-! ### Texts without line ends -/

theorem Clear.append (hs : e.Clear s) (ht : e.Clear t) : e.Clear (s ++ t) := by
  rw [Clear, String.toList_append]
  exact List.forall_mem_append.mpr ⟨hs, ht⟩

theorem clear_iff_countP : e.Clear s ↔ s.toList.countP e.ends = 0 := by
  rw [Clear, List.countP_eq_zero]
  simp

/-- Nothing printable ends a line. -/
theorem clear_of_visible (h : Visible s.toList) : e.Clear s := by
  intro c hc
  by_contra hends
  rw [Bool.not_eq_false] at hends
  have hhidden := e.unprintable c hends
  rw [h c hc] at hhidden
  cases hhidden

/-! ### Lines -/

theorem lines_cons_of_end (hc : e.ends c = true) (s : List Char) :
    e.lines (c :: s) = [] :: e.lines s := by
  rw [lines, if_pos hc]

theorem lines_cons_of_lines (hc : e.ends c = false) {s line : List Char} {rest : List (List Char)}
    (h : e.lines s = line :: rest) : e.lines (c :: s) = (c :: line) :: rest := by
  rw [lines, if_neg (Bool.not_eq_true _ ▸ hc), h]

/-- A text with a line feed behind it has a first line, and what is behind the line feed makes no
difference to its lines. -/
theorem exists_lines_feed (front : List Char) :
    ∃ line rest, ∀ back, e.lines (front ++ '\n' :: back) = line :: (rest ++ e.lines back) := by
  induction front with
  | nil => exact ⟨[], [], fun back => lines_cons_of_end e.feed back⟩
  | cons c front ih =>
    obtain ⟨line, rest, hlines⟩ := ih
    cases hc : e.ends c with
    | true =>
      refine ⟨[], line :: rest, ?_⟩
      intro back
      rw [List.cons_append, lines_cons_of_end hc, hlines back]
      rfl
    | false =>
      refine ⟨c :: line, rest, ?_⟩
      intro back
      rw [List.cons_append, lines_cons_of_lines hc (hlines back)]

/-- The lines of a text with a line feed behind it come in front of the lines of the rest. -/
theorem lines_append_feed (front back : List Char) :
    e.lines (front ++ '\n' :: back) = e.lines (front ++ ['\n']) ++ e.lines back := by
  obtain ⟨line, rest, hlines⟩ := exists_lines_feed (e := e) front
  rw [hlines back, hlines []]
  show line :: (rest ++ e.lines back) = line :: (rest ++ []) ++ e.lines back
  rw [List.append_nil, List.cons_append]

/-- A text with a line feed behind it has a line for this, and one for each line end in it. -/
theorem length_lines_feed (front : List Char) :
    (e.lines (front ++ ['\n'])).length = front.countP e.ends + 1 := by
  induction front with
  | nil =>
    rw [List.nil_append, lines_cons_of_end e.feed]
    rfl
  | cons c front ih =>
    rw [List.cons_append, List.countP_cons]
    cases hc : e.ends c with
    | true =>
      rw [lines_cons_of_end hc, List.length_cons, ih, if_pos rfl]
    | false =>
      obtain ⟨line, rest, hlines⟩ := exists_lines_feed (e := e) front
      rw [lines_cons_of_lines hc (hlines []), if_neg Bool.false_ne_true, Nat.add_zero, ← ih,
        hlines []]
      rfl

/-- A text without line ends is one line. -/
theorem lines_feed_of_clear (h : e.Clear s) : e.lines (s.toList ++ ['\n']) = [s.toList] := by
  rw [Clear] at h
  generalize s.toList = front at h ⊢
  induction front with
  | nil => exact lines_cons_of_end e.feed []
  | cons c front ih =>
    obtain ⟨hc, hfront⟩ := List.forall_mem_cons.mp h
    rw [List.cons_append, lines_cons_of_lines hc (ih hfront)]

/-- **What is printed line by line** is found again, if there is no line end in it. -/
theorem lines_join {printed : List String} (h : ∀ s ∈ printed, e.Clear s) :
    e.lines (String.join (printed.map (· ++ "\n"))).toList = printed.map String.toList := by
  induction printed with
  | nil => rfl
  | cons s printed ih =>
    obtain ⟨hs, hprinted⟩ := List.forall_mem_cons.mp h
    have hjoin : (String.join ((s :: printed).map (· ++ "\n"))).toList =
        s.toList ++ '\n' :: (String.join (printed.map (· ++ "\n"))).toList := by
      simp [String.join_cons]
    rw [hjoin, lines_append_feed, lines_feed_of_clear hs, ih hprinted]
    rfl

end LineEnds

end PeerName.Text
