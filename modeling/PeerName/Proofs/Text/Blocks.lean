import Mathlib.Data.List.Forall2
import PeerName.Proofs.Text.Utf8RoundTrip
import PeerName.Text.Lines

/-!
# Reading written lines

A file that lines have been written to is read as these lines.  The blocks in which it is read may
cut a character anywhere; the bytes in front of the cut are held back, since they are the beginning
of a character and nothing else is wrong with them, and the next block begins with them.

* `Utf8.EndsInside`, `Utf8.endsInside_of_encodeChar` — the beginning of a character is found to be
  just this;
* `Text.IsCut`, `Text.exists_cut` — where a block ends;
* `Text.decodeBlock_cut`, `Text.decodeBlocks_flatMap` — one block, and all blocks;
* `Text.splitLines_lines` — the lines of a text;
* `Text.lines_ofBytes` — **a file is read as the lines that were written to it**.
-/

namespace PeerName

/-! ### Characters that are cut -/

namespace Utf8

variable {a b c : UInt8} (pos : Nat)

theorem decodeFrom_cut_one (hlow : 0xc2 ≤ a.toNat) (hhigh : a.toNat ≤ 0xf4) :
    decodeFrom pos [a] = .error ⟨pos, [a], .truncated⟩ := by
  have h1 : ¬a.toNat < 0x80 := by omega
  rw [decodeFrom.eq_def]
  simp only [h1, if_false]
  by_cases h2 : a.toNat ≤ 0xdf
  · simp only [(within_iff 0xc2 0xdf a).mpr ⟨hlow, h2⟩, if_true]
  have hnot2 : within 0xc2 0xdf a = false := within_eq_false (Nat.lt_of_not_le h2)
  by_cases h3 : a.toNat ≤ 0xef
  · have hthree : within 0xe0 0xef a = true := (within_iff _ _ _).mpr ⟨by omega, h3⟩
    simp only [hnot2, hthree, Bool.false_eq_true, if_true, if_false]
  · have hnot3 : within 0xe0 0xef a = false := within_eq_false (Nat.lt_of_not_le h3)
    have hfour : within 0xf0 0xf4 a = true := (within_iff _ _ _).mpr ⟨by omega, hhigh⟩
    simp only [hnot2, hnot3, hfour, Bool.false_eq_true, if_true, if_false]

theorem decodeFrom_cut_two (hlow : 0xe0 ≤ a.toNat) (hhigh : a.toNat ≤ 0xf4)
    (hsecond : isSecond a b = true) :
    decodeFrom pos [a, b] = .error ⟨pos, [a, b], .truncated⟩ := by
  have h1 : ¬a.toNat < 0x80 := by omega
  have h2 : within 0xc2 0xdf a = false := within_eq_false (by omega)
  rw [decodeFrom.eq_def]
  simp only [h1, h2, hsecond, Bool.false_eq_true, if_true, if_false]
  by_cases h3 : a.toNat ≤ 0xef
  · simp only [(within_iff 0xe0 0xef a).mpr ⟨hlow, h3⟩, if_true]
  · have hnot3 : within 0xe0 0xef a = false := within_eq_false (Nat.lt_of_not_le h3)
    have hfour : within 0xf0 0xf4 a = true := (within_iff _ _ _).mpr ⟨by omega, hhigh⟩
    simp only [hnot3, hfour, Bool.false_eq_true, if_true, if_false]

theorem decodeFrom_cut_three (hlow : 0xf0 ≤ a.toNat) (hhigh : a.toNat ≤ 0xf4)
    (hsecond : isSecond a b = true) (hthird : isContinuation c = true) :
    decodeFrom pos [a, b, c] = .error ⟨pos, [a, b, c], .truncated⟩ := by
  have h1 : ¬a.toNat < 0x80 := by omega
  have h2 : within 0xc2 0xdf a = false := within_eq_false (by omega)
  have h3 : within 0xe0 0xef a = false := within_eq_false (by omega)
  have h4 : within 0xf0 0xf4 a = true := (within_iff _ _ _).mpr ⟨hlow, hhigh⟩
  rw [decodeFrom.eq_def]
  simp only [h1, h2, h3, h4, hsecond, hthird, Bool.false_eq_true, if_true, if_false]

/-- The part in front of a cut is empty, or it begins as the whole. -/
theorem cut_cases {bytes front back : List UInt8} (h : a :: bytes = front ++ back) :
    front = [] ∨ ∃ more, front = a :: more ∧ bytes = more ++ back := by
  rcases List.cons_eq_append_iff.mp h with ⟨rfl, -⟩ | ⟨more, rfl, hrest⟩
  · exact Or.inl rfl
  · exact Or.inr ⟨more, rfl, hrest⟩

/-- A cut inside two bytes. -/
theorem cut_two {front back : List UInt8} (h : [a, b] = front ++ back) (hback : back ≠ []) :
    front = [] ∨ front = [a] := by
  obtain rfl | ⟨more, rfl, hb⟩ := cut_cases h
  · exact Or.inl rfl
  obtain rfl | ⟨more, rfl, hnil⟩ := cut_cases hb
  · exact Or.inr rfl
  · exact absurd (List.append_eq_nil_iff.mp hnil.symm).2 hback

/-- A cut inside three bytes. -/
theorem cut_three {front back : List UInt8} (h : [a, b, c] = front ++ back) (hback : back ≠ []) :
    front = [] ∨ front = [a] ∨ front = [a, b] := by
  obtain rfl | ⟨more, rfl, hrest⟩ := cut_cases h
  · exact Or.inl rfl
  · exact Or.inr ((cut_two hrest hback).imp (congrArg (a :: ·)) (congrArg (a :: ·)))

/-- A cut inside four bytes. -/
theorem cut_four {d : UInt8} {front back : List UInt8} (h : [a, b, c, d] = front ++ back)
    (hback : back ≠ []) : front = [] ∨ front = [a] ∨ front = [a, b] ∨ front = [a, b, c] := by
  obtain rfl | ⟨more, rfl, hrest⟩ := cut_cases h
  · exact Or.inl rfl
  · exact Or.inr ((cut_three hrest hback).imp (congrArg (a :: ·))
      (Or.imp (congrArg (a :: ·)) (congrArg (a :: ·))))

/-- All that the reader finds wrong with bytes is that they end inside a character. -/
def EndsInside (bytes : List UInt8) : Prop :=
  ∃ sequence, decodeFrom pos bytes = .error ⟨pos, sequence, .truncated⟩

section Cut

variable {front back : List UInt8} (hfront : front ≠ []) (hback : back ≠ [])

include hfront hback

theorem endsInside_of_two (h : [a, b] = front ++ back) (hlow : 0xc2 ≤ a.toNat)
    (hhigh : a.toNat ≤ 0xf4) : EndsInside pos front := by
  obtain rfl := (cut_two h hback).resolve_left hfront
  exact ⟨_, decodeFrom_cut_one pos hlow hhigh⟩

theorem endsInside_of_three (h : [a, b, c] = front ++ back) (hlow : 0xe0 ≤ a.toNat)
    (hhigh : a.toNat ≤ 0xf4) (hsecond : isSecond a b = true) : EndsInside pos front := by
  obtain rfl | rfl := (cut_three h hback).resolve_left hfront
  · exact ⟨_, decodeFrom_cut_one pos (by omega) hhigh⟩
  · exact ⟨_, decodeFrom_cut_two pos hlow hhigh hsecond⟩

theorem endsInside_of_four {e : UInt8} (h : [a, b, c, e] = front ++ back) (hlow : 0xf0 ≤ a.toNat)
    (hhigh : a.toNat ≤ 0xf4) (hsecond : isSecond a b = true) (hthird : isContinuation c = true) :
    EndsInside pos front := by
  obtain rfl | rfl | rfl := (cut_four h hback).resolve_left hfront
  · exact ⟨_, decodeFrom_cut_one pos (by omega) hhigh⟩
  · exact ⟨_, decodeFrom_cut_two pos (by omega) hhigh hsecond⟩
  · exact ⟨_, decodeFrom_cut_three pos hlow hhigh hsecond hthird⟩

/-- **The beginning of a character** is found to be just this. -/
theorem endsInside_of_encodeChar {ch : Char} (h : encodeChar ch = front ++ back) :
    EndsInside pos front := by
  have hvalid := toNat_bounds ch
  rw [encodeChar] at h
  generalize ch.toNat = n at hvalid h
  by_cases h1 : n < 0x80
  · rw [if_pos h1] at h
    rcases List.append_eq_singleton_iff.mp h.symm with ⟨hnil, -⟩ | ⟨-, hnil⟩
    · exact absurd hnil hfront
    · exact absurd hnil hback
  rw [if_neg h1] at h
  by_cases h2 : n < 0x800
  · rw [if_pos h2] at h
    have ha : (UInt8.ofNat (0xc0 + n / 64)).toNat = 0xc0 + n / 64 := toNat_ofNat (by omega)
    exact endsInside_of_two pos hfront hback h (by omega) (by omega)
  rw [if_neg h2] at h
  by_cases h3 : n < 0x10000
  · rw [if_pos h3] at h
    have ha : (UInt8.ofNat (0xe0 + n / 4096)).toNat = 0xe0 + n / 4096 := toNat_ofNat (by omega)
    have hb : (UInt8.ofNat (0x80 + n / 64 % 64)).toNat = 0x80 + n / 64 % 64 :=
      toNat_ofNat (by omega)
    exact endsInside_of_three pos hfront hback h (by omega) (by omega)
      (isSecond_of_bounds (by omega) (by omega) (by omega) (by omega) (by omega) (by omega))
  · rw [if_neg h3] at h
    have ha : (UInt8.ofNat (0xf0 + n / 262144)).toNat = 0xf0 + n / 262144 :=
      toNat_ofNat (by omega)
    have hb : (UInt8.ofNat (0x80 + n / 4096 % 64)).toNat = 0x80 + n / 4096 % 64 :=
      toNat_ofNat (by omega)
    have hc : (UInt8.ofNat (0x80 + n / 64 % 64)).toNat = 0x80 + n / 64 % 64 :=
      toNat_ofNat (by omega)
    exact endsInside_of_four pos hfront hback h (by omega) (by omega)
      (isSecond_of_bounds (by omega) (by omega) (by omega) (by omega) (by omega) (by omega))
      ((isContinuation_iff _).mpr (by omega))

end Cut

/-- Every character is written. -/
theorem encodeChar_ne_nil (ch : Char) : encodeChar ch ≠ [] := by
  rw [encodeChar]
  generalize ch.toNat = n
  split
  · exact List.cons_ne_nil _ _
  split
  · exact List.cons_ne_nil _ _
  split
  · exact List.cons_ne_nil _ _
  · exact List.cons_ne_nil _ _

/-- Whole characters in front of other bytes are read. -/
theorem decodeFrom_flatMap_append (s : List Char) (rest : List UInt8) (pos : Nat) :
    decodeFrom pos (s.flatMap encodeChar ++ rest) =
      (decodeFrom (pos + (s.flatMap encodeChar).length) rest).map (s ++ ·) := by
  induction s generalizing pos with
  | nil =>
    show decodeFrom pos rest = (decodeFrom pos rest).map id
    cases decodeFrom pos rest <;> rfl
  | cons c s ih =>
    rw [List.flatMap_cons, List.append_assoc, decodeFrom_encodeChar, ih, List.length_append,
      Nat.add_assoc]
    cases decodeFrom (pos + _) rest <;> rfl

end Utf8

namespace Text

open Utf8 (encodeChar)

/-! ### Blocks -/

/-- These bytes are nothing, or the beginning of the first of these characters. -/
def IsCut (held : List UInt8) (rest : List Char) : Prop :=
  held = [] ∨ ∃ c more back, rest = c :: more ∧ encodeChar c = held ++ back ∧ back ≠ []

variable {held back : List UInt8} {chars rest : List Char}

/-- Where a text is cut there are whole characters in front, and the beginning of the next one. -/
theorem exists_cut {front : List UInt8} (h : front ++ back = chars.flatMap encodeChar) :
    ∃ done held rest, chars = done ++ rest ∧ front = done.flatMap encodeChar ++ held ∧
      held ++ back = rest.flatMap encodeChar ∧ IsCut held rest := by
  induction chars generalizing front with
  | nil =>
    obtain ⟨rfl, rfl⟩ := List.append_eq_nil_iff.mp h
    exact ⟨[], [], [], rfl, rfl, rfl, Or.inl rfl⟩
  | cons c cs ih =>
    rw [List.flatMap_cons] at h
    rcases List.append_eq_append_iff.mp h with ⟨more, hchar, -⟩ | ⟨more, rfl, hrest⟩
    · by_cases hmore : more = []
      · -- the cut is just behind the first character
        rw [hmore, List.append_nil] at hchar
        refine ⟨[c], [], cs, rfl, ?_, ?_, Or.inl rfl⟩
        · rw [List.flatMap_singleton, hchar, List.append_nil]
        · rw [hchar] at h
          exact List.append_cancel_left h
      · exact ⟨[], front, c :: cs, rfl, rfl, by rw [List.flatMap_cons, h],
          Or.inr ⟨c, cs, more, rfl, hchar, hmore⟩⟩
    · obtain ⟨done, held, rest, rfl, rfl, hheld, hcut⟩ := ih hrest.symm
      refine ⟨c :: done, held, rest, rfl, ?_, hheld, hcut⟩
      rw [List.flatMap_cons, List.append_assoc]

/-- **One block** gives its whole characters, and the beginning of the next one is held back. -/
theorem decodeBlock_cut (done : List Char) (hcut : IsCut held rest) :
    decodeBlock (done.flatMap encodeChar ++ held) = .ok (done, held) := by
  by_cases hheld : held = []
  · rw [hheld, List.append_nil, decodeBlock, Utf8.decode, Utf8.decodeFrom_flatMap_encodeChar]
  · obtain hnil | ⟨c, more, back, -, hchar, hback⟩ := hcut
    · exact absurd hnil hheld
    obtain ⟨sequence, hfault⟩ := Utf8.endsInside_of_encodeChar
      (0 + (done.flatMap encodeChar).length) hheld hback hchar
    have hdecode : Utf8.decode (done.flatMap encodeChar ++ held) =
        .error ⟨(done.flatMap encodeChar).length, sequence, .truncated⟩ := by
      rw [Utf8.decode, Utf8.decodeFrom_flatMap_append, hfault, Nat.zero_add]
      rfl
    rw [decodeBlock, hdecode]
    dsimp only
    rw [mayContinue, decide_eq_true rfl, Bool.true_or, if_pos rfl, List.take_left, List.drop_left,
      Utf8.decode, Utf8.decodeFrom_flatMap_encodeChar]

/-- **All blocks** together give the characters of the text. -/
theorem decodeBlocks_flatMap {fuel : Nat} {bytes : List UInt8}
    (h : held ++ bytes = chars.flatMap encodeChar) (hcut : IsCut held chars)
    (hfuel : bytes.length < fuel) : decodeBlocks fuel held bytes = (chars, none) := by
  -- every block that is not the last one takes bytes away, and what it holds back is a cut again
  induction fuel generalizing held bytes chars with
  | zero => omega
  | succ fuel ih =>
    rw [decodeBlocks]
    by_cases hbytes : bytes = []
    · subst hbytes
      rw [List.append_nil] at h
      have hnil : held = [] := by
        obtain hnil | ⟨c, more, back, rfl, hchar, hback⟩ := hcut
        · exact hnil
        · -- otherwise the first character is not complete
          rw [h, List.flatMap_cons, List.append_assoc, List.self_eq_append_right,
            List.append_eq_nil_iff] at hchar
          exact absurd hchar.2 hback
      subst hnil
      have hchars : chars = [] := by
        cases chars with
        | nil => rfl
        | cons c cs =>
          rw [List.flatMap_cons] at h
          exact absurd (List.append_eq_nil_iff.mp h.symm).1 (Utf8.encodeChar_ne_nil c)
      rw [hchars]
      rfl
    · rw [if_neg (by simpa using hbytes)]
      rw [← List.take_append_drop blockSize bytes, ← List.append_assoc] at h
      obtain ⟨done, next, rest, rfl, hfront, hrest, hnext⟩ := exists_cut h
      have hshorter : (bytes.drop blockSize).length < fuel := by
        have hpos := List.length_pos_iff.mpr hbytes
        rw [List.length_drop, blockSize]
        omega
      rw [hfront, decodeBlock_cut done hnext]
      dsimp only
      rw [ih hrest hnext hshorter]

/-! ### Lines -/

variable {line : List Char}

/-- Neither of the characters that end lines is in a line. -/
def IsLine (line : List Char) : Prop := '\n' ∉ line ∧ '\r' ∉ line

instance (line : List Char) : Decidable (IsLine line) := inferInstanceAs (Decidable (_ ∧ _))

theorem IsLine.of_cons {c : Char} (h : IsLine (c :: line)) : c ≠ '\n' ∧ c ≠ '\r' ∧ IsLine line := by
  obtain ⟨hfeed, hfeeds⟩ := List.ne_and_not_mem_of_not_mem_cons h.1
  obtain ⟨hreturn, hreturns⟩ := List.ne_and_not_mem_of_not_mem_cons h.2
  exact ⟨hfeed.symm, hreturn.symm, hfeeds, hreturns⟩

theorem splitLines_cons {c : Char} (hfeed : c ≠ '\n') (hreturn : c ≠ '\r') (s : List Char) :
    splitLines (c :: s) = consLine c (splitLines s) := by
  rw [splitLines.eq_def]
  split
  next h => cases h
  next h => exact absurd (List.cons.inj h).1 hreturn
  next h => exact absurd (List.cons.inj h).1 hreturn
  next h => exact absurd (List.cons.inj h).1 hreturn
  next h => exact absurd (List.cons.inj h).1 hfeed
  next h =>
    obtain ⟨rfl, rfl⟩ := List.cons.inj h
    rfl

theorem splitLines_of_isLine (h : IsLine line) : splitLines line = ([], line) := by
  induction line with
  | nil => rfl
  | cons c line ih =>
    obtain ⟨hfeed, hreturn, hline⟩ := h.of_cons
    rw [splitLines_cons hfeed hreturn, ih hline, consLine]

/-- **A line is cut off behind its line feed.** -/
theorem splitLines_append_feed (h : IsLine line) (s : List Char) :
    splitLines (line ++ '\n' :: s) = ((line ++ ['\n']) :: (splitLines s).1, (splitLines s).2) := by
  induction line with
  | nil => rw [List.nil_append, splitLines, List.nil_append]
  | cons c line ih =>
    obtain ⟨hfeed, hreturn, hline⟩ := h.of_cons
    rw [List.cons_append, splitLines_cons hfeed hreturn, ih hline, consLine, List.cons_append]

/-- Lines with line feeds behind them are completed, and one without is left. -/
theorem splitLines_lines {front : List (List Char)} (hfront : ∀ line ∈ front, IsLine line)
    {last : List Char} (hlast : IsLine last) :
    splitLines (front.flatMap (· ++ ['\n']) ++ last) = (front.map (· ++ ['\n']), last) := by
  induction front with
  | nil => exact splitLines_of_isLine hlast
  | cons line front ih =>
    have hline : IsLine line := hfront line List.mem_cons_self
    rw [List.flatMap_cons, List.append_assoc, List.append_assoc, List.singleton_append,
      splitLines_append_feed hline, ih fun l hl => hfront l (List.mem_cons_of_mem _ hl),
      List.map_cons]

theorem intercalate_concat (front : List (List Char)) (last : List Char) :
    ['\n'].intercalate (front ++ [last]) = front.flatMap (· ++ ['\n']) ++ last := by
  induction front with
  | nil => exact List.intercalate_singleton
  | cons line front ih =>
    have hne : front ++ [last] ≠ [] := by simp
    rw [List.cons_append, List.intercalate_cons_of_ne_nil hne, ih, List.flatMap_cons]
    simp only [List.append_assoc]

/-- A line as it is read: with a line feed behind it, unless the file ends there. -/
def ReadAs (line read : List Char) : Prop := read = line ∨ read = line ++ ['\n']

/-- **A file is read as the lines that were written to it.**  Only an empty line at the end is lost,
since nothing of it is there. -/
theorem lines_ofBytes {lines : List (List Char)} (h : ∀ line ∈ lines, IsLine line) :
    ∃ kept read, (lines = kept ∨ lines = kept ++ [[]]) ∧ List.Forall₂ ReadAs kept read ∧
      Lines.ofBytes (Utf8.encode (String.ofList (['\n'].intercalate lines))) =
        { lines := read, fault := none } := by
  have hdecode (s : List Char) :
      decodeBlocks ((Utf8.encode (String.ofList s)).length + 1) [] (Utf8.encode (String.ofList s)) =
        (s, none) := by
    apply decodeBlocks_flatMap _ (Or.inl rfl) (Nat.lt_succ_self _)
    rw [List.nil_append, Utf8.encode, String.toList_ofList]
  rcases List.eq_nil_or_concat lines with rfl | ⟨front, last, rfl⟩
  · refine ⟨[], [], Or.inl rfl, .nil, ?_⟩
    rw [Lines.ofBytes, hdecode]
    rfl
  · rw [List.concat_eq_append] at h ⊢
    have hlast : IsLine last := h last (by simp)
    have hfront : ∀ line ∈ front, IsLine line := fun line hl => h line (by simp [hl])
    have hfeeds : List.Forall₂ ReadAs front (front.map (· ++ ['\n'])) := by
      rw [List.forall₂_map_right_iff, List.forall₂_same]
      exact fun line _ => Or.inr rfl
    rw [Lines.ofBytes, hdecode, intercalate_concat]
    dsimp only
    rw [splitLines_lines hfront hlast]
    dsimp only
    by_cases hempty : last = []
    · refine ⟨front, _, Or.inr (by rw [hempty]), hfeeds, ?_⟩
      rw [hempty, List.isEmpty_nil, Bool.or_true, if_pos rfl]
    · have hnot : ((none : Option Utf8.Fault).isSome || last.isEmpty) = false := by
        simpa using hempty
      have hreturn : last.getLast? ≠ some '\r' := fun hr =>
        hlast.2 (List.mem_of_getLast? hr)
      refine ⟨front ++ [last], _, Or.inl rfl, List.rel_append hfeeds (.cons (Or.inl rfl) .nil), ?_⟩
      rw [hnot, if_neg Bool.false_ne_true, if_neg hreturn]

end Text

end PeerName
