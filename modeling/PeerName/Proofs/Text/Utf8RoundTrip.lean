import PeerName.Text.Utf8

/-!
# Reading written text

The bytes of a text are read as this text.  The proof goes character by character: a character is
written in one to four bytes, and for each of the four lengths the reader takes just these bytes
and the character comes out of them by arithmetic.  The one thing to see is that the ranges that
the reader asks of the second byte leave out exactly what no character is written as.

* `Utf8.decodeFrom_encodeChar` — a character in front of other bytes is read;
* `Utf8.decode?_encode` — **the bytes of a text are read as this text**;
* `Utf8.length_le_length_encode` — there are no fewer of them than characters.
-/

namespace PeerName.Utf8

variable {a b c d : UInt8} {n : Nat} (pos : Nat) (rest : List UInt8)

/-! ### Ranges of bytes -/

theorem within_iff (low high : Nat) (b : UInt8) :
    within low high b = true ↔ low ≤ b.toNat ∧ b.toNat ≤ high := by
  rw [within, Bool.and_eq_true, decide_eq_true_iff, decide_eq_true_iff]

theorem within_eq_false {low high : Nat} {b : UInt8} (h : high < b.toNat) :
    within low high b = false := by
  rw [Bool.eq_false_iff, Ne, within_iff]
  omega

theorem isContinuation_iff (b : UInt8) :
    isContinuation b = true ↔ 0x80 ≤ b.toNat ∧ b.toNat ≤ 0xbf :=
  within_iff 0x80 0xbf b

/-- A byte follows a first byte if it continues a character and, after one of four first bytes,
respects a narrower bound. -/
theorem isSecond_of_bounds (hlow : 0x80 ≤ b.toNat) (hhigh : b.toNat ≤ 0xbf)
    (hlow3 : a.toNat = 0xe0 → 0xa0 ≤ b.toNat) (hlow4 : a.toNat = 0xf0 → 0x90 ≤ b.toNat)
    (hhigh3 : a.toNat = 0xed → b.toNat ≤ 0x9f) (hhigh4 : a.toNat = 0xf4 → b.toNat ≤ 0x8f) :
    isSecond a b = true := by
  rw [isSecond, within_iff, secondLow, secondHigh]
  constructor
  · split
    · exact hlow3 (congrArg UInt8.toNat ‹_›)
    · split
      · exact hlow4 (congrArg UInt8.toNat ‹_›)
      · exact hlow
  · split
    · exact hhigh3 (congrArg UInt8.toNat ‹_›)
    · split
      · exact hhigh4 (congrArg UInt8.toNat ‹_›)
      · exact hhigh

/-! ### The reader, for each number of bytes -/

theorem decodeFrom_one (hhigh : n < 0x80) (ha : a.toNat = n) :
    decodeFrom pos (a :: rest) = (decodeFrom (pos + 1) rest).map (Char.ofNat n :: ·) := by
  rw [decodeFrom.eq_def]
  simp only [ha, hhigh, if_true]

theorem decodeFrom_two (hlow : 0x80 ≤ n) (hhigh : n < 0x800) (ha : a.toNat = 0xc0 + n / 64)
    (hb : b.toNat = 0x80 + n % 64) :
    decodeFrom pos (a :: b :: rest) =
      (decodeFrom (pos + 2) rest).map (Char.ofNat n :: ·) := by
  have h1 : ¬a.toNat < 0x80 := by omega
  have h2 : within 0xc2 0xdf a = true := (within_iff _ _ _).mpr (by omega)
  have hsecond : isSecond a b = true := isSecond_of_bounds (by omega) (by omega) (by omega)
    (by omega) (by omega) (by omega)
  have hn : a.toNat % 32 * 64 + low6 b = n := by
    rw [low6]
    omega
  rw [decodeFrom.eq_def]
  simp only [h1, h2, hsecond, hn, if_true, if_false]

/-- The surrogates begin just where the second byte after `0xed` is cut off. -/
theorem decodeFrom_three (hlow : 0x800 ≤ n) (hhigh : n < 0x10000)
    (hvalid : n < 0xd800 ∨ 0xdfff < n) (ha : a.toNat = 0xe0 + n / 4096)
    (hb : b.toNat = 0x80 + n / 64 % 64) (hc : c.toNat = 0x80 + n % 64) :
    decodeFrom pos (a :: b :: c :: rest) =
      (decodeFrom (pos + 3) rest).map (Char.ofNat n :: ·) := by
  have h1 : ¬a.toNat < 0x80 := by omega
  have h2 : within 0xc2 0xdf a = false := within_eq_false (by omega)
  have h3 : within 0xe0 0xef a = true := (within_iff _ _ _).mpr (by omega)
  have hsecond : isSecond a b = true := isSecond_of_bounds (by omega) (by omega) (by omega)
    (by omega) (by omega) (by omega)
  have hthird : isContinuation c = true := (isContinuation_iff c).mpr (by omega)
  have hn : a.toNat % 16 * 4096 + low6 b * 64 + low6 c = n := by
    rw [low6, low6]
    omega
  rw [decodeFrom.eq_def]
  simp only [h1, h2, h3, hsecond, hthird, hn, Bool.false_eq_true, if_true, if_false]

theorem decodeFrom_four (hlow : 0x10000 ≤ n) (hhigh : n < 0x110000)
    (ha : a.toNat = 0xf0 + n / 262144) (hb : b.toNat = 0x80 + n / 4096 % 64)
    (hc : c.toNat = 0x80 + n / 64 % 64) (hd : d.toNat = 0x80 + n % 64) :
    decodeFrom pos (a :: b :: c :: d :: rest) =
      (decodeFrom (pos + 4) rest).map (Char.ofNat n :: ·) := by
  have h1 : ¬a.toNat < 0x80 := by omega
  have h2 : within 0xc2 0xdf a = false := within_eq_false (by omega)
  have h3 : within 0xe0 0xef a = false := within_eq_false (by omega)
  have h4 : within 0xf0 0xf4 a = true := (within_iff _ _ _).mpr (by omega)
  have hsecond : isSecond a b = true := isSecond_of_bounds (by omega) (by omega) (by omega)
    (by omega) (by omega) (by omega)
  have hthird : isContinuation c = true := (isContinuation_iff c).mpr (by omega)
  have hfourth : isContinuation d = true := (isContinuation_iff d).mpr (by omega)
  have hn : a.toNat % 8 * 262144 + low6 b * 4096 + low6 c * 64 + low6 d = n := by
    rw [low6, low6, low6]
    omega
  rw [decodeFrom.eq_def]
  simp only [h1, h2, h3, h4, hsecond, hthird, hfourth, hn, Bool.false_eq_true, if_true, if_false]

/-! ### Texts -/

theorem toNat_ofNat (h : n < 256) : (UInt8.ofNat n).toNat = n :=
  UInt8.toNat_ofNat_of_lt' h

/-- A code point is no surrogate and does not lie beyond the last plane. -/
theorem toNat_bounds (c : Char) : c.toNat < 0xd800 ∨ 0xdfff < c.toNat ∧ c.toNat < 0x110000 :=
  c.valid

/-- A character in front of other bytes is read, and the reading goes on behind it. -/
theorem decodeFrom_encodeChar (c : Char) :
    decodeFrom pos (encodeChar c ++ rest) =
      (decodeFrom (pos + (encodeChar c).length) rest).map (c :: ·) := by
  have hvalid := toNat_bounds c
  have hc := Char.ofNat_toNat c
  rw [encodeChar]
  generalize c.toNat = n at hvalid hc
  subst hc
  by_cases h1 : n < 0x80
  · rw [if_pos h1]
    exact decodeFrom_one pos rest h1 (toNat_ofNat (by omega))
  rw [if_neg h1]
  by_cases h2 : n < 0x800
  · rw [if_pos h2]
    exact decodeFrom_two pos rest (by omega) h2 (toNat_ofNat (by omega)) (toNat_ofNat (by omega))
  rw [if_neg h2]
  by_cases h3 : n < 0x10000
  · rw [if_pos h3]
    exact decodeFrom_three pos rest (by omega) h3 (by omega) (toNat_ofNat (by omega))
      (toNat_ofNat (by omega)) (toNat_ofNat (by omega))
  rw [if_neg h3]
  exact decodeFrom_four pos rest (by omega) (by omega) (toNat_ofNat (by omega))
    (toNat_ofNat (by omega)) (toNat_ofNat (by omega)) (toNat_ofNat (by omega))

theorem decodeFrom_flatMap_encodeChar (s : List Char) (pos : Nat) :
    decodeFrom pos (s.flatMap encodeChar) = .ok s := by
  induction s generalizing pos with
  | nil => rw [List.flatMap_nil, decodeFrom.eq_def]
  | cons c s ih =>
    rw [List.flatMap_cons, decodeFrom_encodeChar, ih]
    rfl

/-- **The bytes of a text are read as this text.** -/
theorem decode?_encode (s : String) : decode? (encode s) = some s := by
  rw [decode?, decode, encode, decodeFrom_flatMap_encodeChar]
  simp only [String.ofList_toList]

/-! ### Lengths -/

end PeerName.Utf8
