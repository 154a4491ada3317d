import PeerName.Proofs.Text.Utf8RoundTrip

/-!
# ASCII within UTF-8

A byte below 128 is the whole of an ASCII character, and no other character has such a byte in it.
So ASCII bytes are the bytes of a text, and they occur among the bytes of a text only where their
characters occur in it.  And bytes that are read as a text are the bytes of this text, so that a
label is found in the bytes when it has been read.

* `encode_of_decode?` — **what is read are the bytes of the text**;
* `flatMap_asciiChars` — ASCII bytes as characters;
* `infix_of_infix_flatMap` — **ASCII bytes occur only where their characters do**.
-/

namespace PeerName.Utf8

variable {a b c d : UInt8} {n pos : Nat} {bytes rest : List UInt8}

/-! ### Bytes that are read -/

/-- A number that is a code point is found again in its character. -/
theorem toNat_char (h : n < 0xd800 ∨ 0xdfff < n ∧ n < 0x110000) : (Char.ofNat n).toNat = n := by
  have hvalid : n.isValidChar := h
  rw [Char.ofNat, dif_pos hvalid]
  rfl

theorem bounds_of_isSecond (h : isSecond a b = true) :
    (0x80 ≤ b.toNat ∧ b.toNat ≤ 0xbf) ∧
      (a.toNat = 0xe0 → 0xa0 ≤ b.toNat) ∧ (a.toNat = 0xf0 → 0x90 ≤ b.toNat) ∧
      (a.toNat = 0xed → b.toNat ≤ 0x9f) ∧ (a.toNat = 0xf4 → b.toNat ≤ 0x8f) := by
  have heq {n : Nat} (hn : n < 256) : a.toNat = n ↔ a = UInt8.ofNat n := by
    rw [← UInt8.toNat_inj, toNat_ofNat hn]
  rw [isSecond, within_iff, secondLow, secondHigh] at h
  rw [heq (by omega), heq (by omega), heq (by omega), heq (by omega)]
  obtain ⟨hlow, hhigh⟩ := h
  refine ⟨⟨?_, ?_⟩, ?_, ?_, ?_, ?_⟩
  · split at hlow
    · omega
    · split at hlow <;> omega
  · split at hhigh
    · omega
    · split at hhigh <;> omega
  · rintro rfl
    exact hlow
  · rintro rfl
    exact hlow
  · rintro rfl
    exact hhigh
  · rintro rfl
    exact hhigh

theorem encodeChar_one (h : a.toNat < 0x80) : encodeChar (Char.ofNat a.toNat) = [a] := by
  rw [encodeChar, toNat_char (by omega), if_pos h, UInt8.ofNat_toNat]

/-- A byte is found again from its number. -/
theorem byte_eq (h : n = a.toNat) : UInt8.ofNat n = a := by
  rw [h, UInt8.ofNat_toNat]

theorem encodeChar_two (ha : within 0xc2 0xdf a = true) (hb : isSecond a b = true) :
    encodeChar (Char.ofNat (a.toNat % 32 * 64 + low6 b)) = [a, b] := by
  obtain ⟨hlow, hhigh⟩ := (within_iff _ _ _).mp ha
  obtain ⟨hsecond, -⟩ := bounds_of_isSecond hb
  generalize hn : a.toNat % 32 * 64 + low6 b = n
  rw [low6] at hn
  have hfirst : UInt8.ofNat (0xc0 + n / 64) = a := byte_eq (by omega)
  have hlast : UInt8.ofNat (0x80 + n % 64) = b := byte_eq (by omega)
  rw [encodeChar, toNat_char (by omega), if_neg (by omega), if_pos (by omega), hfirst, hlast]

theorem encodeChar_three (ha : within 0xe0 0xef a = true) (hb : isSecond a b = true)
    (hc : isContinuation c = true) :
    encodeChar (Char.ofNat (a.toNat % 16 * 4096 + low6 b * 64 + low6 c)) = [a, b, c] := by
  obtain ⟨hlow, hhigh⟩ := (within_iff _ _ _).mp ha
  obtain ⟨hsecond, hlow3, -, hhigh3, -⟩ := bounds_of_isSecond hb
  have hthird := (isContinuation_iff c).mp hc
  generalize hn : a.toNat % 16 * 4096 + low6 b * 64 + low6 c = n
  rw [low6, low6] at hn
  have hfirst : UInt8.ofNat (0xe0 + n / 4096) = a := byte_eq (by omega)
  have hmiddle : UInt8.ofNat (0x80 + n / 64 % 64) = b := byte_eq (by omega)
  have hlast : UInt8.ofNat (0x80 + n % 64) = c := byte_eq (by omega)
  rw [encodeChar, toNat_char (by omega), if_neg (by omega), if_neg (by omega),
    if_pos (by omega), hfirst, hmiddle, hlast]

theorem encodeChar_four (ha : within 0xf0 0xf4 a = true) (hb : isSecond a b = true)
    (hc : isContinuation c = true) (hd : isContinuation d = true) :
    encodeChar (Char.ofNat (a.toNat % 8 * 262144 + low6 b * 4096 + low6 c * 64 + low6 d)) =
      [a, b, c, d] := by
  obtain ⟨hlow, hhigh⟩ := (within_iff _ _ _).mp ha
  obtain ⟨hsecond, -, hlow4, -, hhigh4⟩ := bounds_of_isSecond hb
  have hthird := (isContinuation_iff c).mp hc
  have hfourth := (isContinuation_iff d).mp hd
  generalize hn : a.toNat % 8 * 262144 + low6 b * 4096 + low6 c * 64 + low6 d = n
  rw [low6, low6, low6] at hn
  have hfirst : UInt8.ofNat (0xf0 + n / 262144) = a := byte_eq (by omega)
  have hupper : UInt8.ofNat (0x80 + n / 4096 % 64) = b := byte_eq (by omega)
  have hlower : UInt8.ofNat (0x80 + n / 64 % 64) = c := byte_eq (by omega)
  have hlast : UInt8.ofNat (0x80 + n % 64) = d := byte_eq (by omega)
  rw [encodeChar, toNat_char (by omega), if_neg (by omega), if_neg (by omega),
    if_neg (by omega), hfirst, hupper, hlower, hlast]

/-- Reading goes on behind a character. -/
theorem exists_of_cons {ch : Char} {chars : List Char} {more : Except Fault (List Char)}
    (h : more.map (ch :: ·) = .ok chars) : ∃ tail, more = .ok tail ∧ chars = ch :: tail := by
  cases more with
  | error fault => cases h
  | ok tail => exact ⟨tail, rfl, (Except.ok.inj h).symm⟩

/-- The bytes that are read as characters are the bytes of these characters. -/
theorem flatMap_of_decodeFrom {chars : List Char} (h : decodeFrom pos bytes = .ok chars) :
    chars.flatMap encodeChar = bytes := by
  fun_induction decodeFrom pos bytes generalizing chars with
  | case1 pos =>
    rw [← Except.ok.inj h]
    rfl
  | case2 pos a rest ha ih =>
    obtain ⟨tail, hrest, rfl⟩ := exists_of_cons h
    rw [List.flatMap_cons, encodeChar_one ha, ih hrest, List.singleton_append]
  | case4 pos a _ ha b rest hb ih =>
    obtain ⟨tail, hrest, rfl⟩ := exists_of_cons h
    rw [List.flatMap_cons, encodeChar_two ha hb, ih hrest]
    rfl
  | case8 pos a _ _ ha b hb c rest hc ih =>
    obtain ⟨tail, hrest, rfl⟩ := exists_of_cons h
    rw [List.flatMap_cons, encodeChar_three ha hb hc, ih hrest]
    rfl
  | case14 pos a _ _ _ ha b hb c hc d rest hd ih =>
    obtain ⟨tail, hrest, rfl⟩ := exists_of_cons h
    rw [List.flatMap_cons, encodeChar_four ha hb hc hd, ih hrest]
    rfl
  | _ => cases h -- a faulty sequence ends the reading

/-- **What is read are the bytes of the text.** -/
theorem encode_of_decode? {s : String} (h : decode? bytes = some s) : encode s = bytes := by
  rw [decode?] at h
  split at h
  next chars hchars =>
    rw [← Option.some.inj h, encode, String.toList_ofList]
    exact flatMap_of_decodeFrom hchars
  next => cases h

/-! ### ASCII bytes -/

/-- A list of bytes can be looked through for the ones that are not ASCII. -/
theorem toNat_lt_of_all (h : bytes.all (fun b => b.toNat < 0x80) = true) :
    ∀ b ∈ bytes, b.toNat < 0x80 :=
  fun b hb => of_decide_eq_true (List.all_eq_true.mp h b hb)

/-- The characters of ASCII bytes. -/
def asciiChars (bytes : List UInt8) : List Char := bytes.map fun b => Char.ofNat b.toNat

/-- A character is a single byte below 128, or has no such byte in it. -/
theorem encodeChar_cases (ch : Char) :
    (ch.toNat < 0x80 ∧ encodeChar ch = [UInt8.ofNat ch.toNat]) ∨
      ∃ a more, encodeChar ch = a :: more ∧ ∀ b ∈ a :: more, 0x80 ≤ b.toNat := by
  have hvalid := toNat_bounds ch
  have hhigh {m : Nat} (hlow : 0x80 ≤ m) (hm : m < 256) : 0x80 ≤ (UInt8.ofNat m).toNat := by
    rw [toNat_ofNat hm]
    exact hlow
  have hnone : ∀ b ∈ ([] : List UInt8), 0x80 ≤ b.toNat := List.forall_mem_nil _
  rw [encodeChar]
  generalize ch.toNat = n at hvalid
  by_cases h1 : n < 0x80
  · exact Or.inl ⟨h1, if_pos h1⟩
  rw [if_neg h1]
  by_cases h2 : n < 0x800
  · refine Or.inr ⟨_, _, if_pos h2, ?_⟩
    simp only [List.forall_mem_cons]
    exact ⟨hhigh (by omega) (by omega), hhigh (by omega) (by omega), hnone⟩
  rw [if_neg h2]
  by_cases h3 : n < 0x10000
  · refine Or.inr ⟨_, _, if_pos h3, ?_⟩
    simp only [List.forall_mem_cons]
    exact ⟨hhigh (by omega) (by omega), hhigh (by omega) (by omega),
      hhigh (by omega) (by omega), hnone⟩
  · refine Or.inr ⟨_, _, if_neg h3, ?_⟩
    simp only [List.forall_mem_cons]
    exact ⟨hhigh (by omega) (by omega), hhigh (by omega) (by omega),
      hhigh (by omega) (by omega), hhigh (by omega) (by omega), hnone⟩

/-- ASCII bytes are the bytes of their characters. -/
theorem flatMap_asciiChars (h : ∀ b ∈ bytes, b.toNat < 0x80) :
    (asciiChars bytes).flatMap encodeChar = bytes := by
  induction bytes with
  | nil => rfl
  | cons b bytes ih =>
    obtain ⟨hb, hbytes⟩ := List.forall_mem_cons.mp h
    rw [asciiChars, List.map_cons, List.flatMap_cons, encodeChar_one hb, List.singleton_append]
    exact congrArg (b :: ·) (ih hbytes)

variable {part : List UInt8} {s : List Char}

/-- ASCII bytes at the beginning are the first characters. -/
theorem prefix_of_prefix_flatMap (hpart : ∀ b ∈ part, b.toNat < 0x80)
    (h : part <+: s.flatMap encodeChar) : asciiChars part <+: s := by
  induction part generalizing s with
  | nil => exact List.nil_prefix
  | cons b part ih =>
    obtain ⟨hb, htail⟩ := List.forall_mem_cons.mp hpart
    cases s with
    | nil => exact absurd (List.prefix_nil.mp h) (List.cons_ne_nil b part)
    | cons ch s =>
      rw [List.flatMap_cons] at h
      rcases encodeChar_cases ch with ⟨hch, hbytes⟩ | ⟨a, more, hbytes, hhigh⟩
      · rw [hbytes, List.singleton_append, List.cons_prefix_cons] at h
        obtain ⟨rfl, h⟩ := h
        rw [asciiChars, List.map_cons, toNat_ofNat (by omega), Char.ofNat_toNat]
        exact List.cons_prefix_cons.mpr ⟨rfl, ih htail h⟩
      · rw [hbytes, List.cons_append, List.cons_prefix_cons] at h
        have ha := hhigh a List.mem_cons_self
        rw [h.1] at hb
        omega

/-- Bytes that have nothing in common with a part are passed over when it is looked for. -/
theorem infix_of_infix_append {front : List UInt8} (hfront : ∀ b ∈ front, b ∉ part)
    (h : part <:+: front ++ rest) : part <:+: rest := by
  induction front with
  | nil => exact h
  | cons b front ih =>
    obtain ⟨hb, hfront⟩ := List.forall_mem_cons.mp hfront
    rcases List.infix_cons_iff.mp h with hprefix | hinfix
    · cases part with
      | nil => exact List.nil_infix
      | cons a part =>
        obtain ⟨rfl, -⟩ := List.cons_prefix_cons.mp hprefix
        exact absurd List.mem_cons_self hb
    · exact ih hfront hinfix

/-- **ASCII bytes occur only where their characters do.** -/
theorem infix_of_infix_flatMap (hpart : ∀ b ∈ part, b.toNat < 0x80)
    (h : part <:+: s.flatMap encodeChar) : asciiChars part <:+: s := by
  induction s with
  | nil =>
    rw [List.infix_nil.mp h]
    exact List.nil_infix
  | cons ch s ih =>
    have hpassed (hrest : part <:+: s.flatMap encodeChar) : asciiChars part <:+: ch :: s :=
      (ih hrest).trans (List.suffix_cons ch s).isInfix
    rcases encodeChar_cases ch with ⟨hch, hbytes⟩ | ⟨a, more, hbytes, hhigh⟩
    · have hcons := h
      rw [List.flatMap_cons, hbytes, List.singleton_append, List.infix_cons_iff] at hcons
      rcases hcons with hprefix | hrest
      · refine (prefix_of_prefix_flatMap hpart ?_).isInfix
        rwa [List.flatMap_cons, hbytes]
      · exact hpassed hrest
    · rw [List.flatMap_cons, hbytes] at h
      refine hpassed (infix_of_infix_append (fun b hb hmem => ?_) h)
      have hlow := hpart b hmem
      have hb := hhigh b hb
      omega

end PeerName.Utf8
