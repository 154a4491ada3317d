import PeerName.Pem.Base64
import PeerName.Proofs.Text.Ascii

/-!
# Base64 that is read back

Three bytes are written as four symbols, and the four symbols give the three bytes back by
arithmetic on their bits.  One or two bytes at the end are written with padding, and the bits that
were filled up are zero, as the reader asks.

* `sextet?_symbol`, `eq_symbol_or_pad_of_mem` — the symbols, and nothing but symbols and padding;
* `decodeLast?_one`, `decodeLast?_two`, `decodeLast?_three` — the last four symbols;
* `decode?_quad` — four symbols in front of other ones;
* `decode?_encode` — **what is written is read**, whatever the number of bytes.
-/

namespace PeerName.Base64

open Utf8 (byte_eq)

variable {a b c d : UInt8} {w x y z : Nat}

/-! ### Symbols -/

theorem sextet?_symbol (h : w < 64) : sextet? (symbol w) = some w := by
  have hall : ∀ n < 64, sextet? (symbol n) = some n := by decide
  exact hall w h

/-- Padding is no symbol. -/
theorem ne_pad_of_sextet? (h : sextet? a = some w) : a ≠ pad := by
  rintro rfl
  cases h

/-- Nothing is written but symbols and padding. -/
theorem eq_symbol_or_pad_of_mem {bytes : List UInt8} (h : a ∈ encode bytes) :
    (∃ n < 64, a = symbol n) ∨ a = pad := by
  have hsymbol {n : Nat} (hn : n < 64) (ha : a = symbol n) :
      (∃ n < 64, a = symbol n) ∨ a = pad := Or.inl ⟨n, hn, ha⟩
  induction bytes using encode.induct with
  | case1 => cases h
  | case2 p =>
    have hp := p.toNat_lt
    simp only [encode, List.mem_cons, List.not_mem_nil, or_false] at h
    rcases h with h | h | h | h
    · exact hsymbol (by omega) h
    · exact hsymbol (by omega) h
    · exact Or.inr h
    · exact Or.inr h
  | case3 p q =>
    have hp := p.toNat_lt
    have hq := q.toNat_lt
    simp only [encode, List.mem_cons, List.not_mem_nil, or_false] at h
    rcases h with h | h | h | h
    · exact hsymbol (by omega) h
    · exact hsymbol (by omega) h
    · exact hsymbol (by omega) h
    · exact Or.inr h
  | case4 p q r rest ih =>
    have hp := p.toNat_lt
    have hq := q.toNat_lt
    have hr := r.toNat_lt
    simp only [encode, List.mem_cons] at h
    rcases h with h | h | h | h | h
    · exact hsymbol (by omega) h
    · exact hsymbol (by omega) h
    · exact hsymbol (by omega) h
    · exact hsymbol (by omega) h
    · exact ih h

/-- Some symbols are written for some bytes. -/
theorem encode_ne_nil {bytes : List UInt8} (h : bytes ≠ []) : encode bytes ≠ [] := by
  cases bytes using encode.fun_cases with
  | case1 => exact absurd rfl h
  | case2 => exact List.cons_ne_nil _ _
  | case3 => exact List.cons_ne_nil _ _
  | case4 => exact List.cons_ne_nil _ _

/-! ### Reading -/

/-- Two symbols and padding give one byte. -/
theorem decodeLast?_one (ha : sextet? a = some w) (hb : sextet? b = some x) (hx : x % 16 = 0) :
    decodeLast? a b pad pad = some [UInt8.ofNat (w * 4 + x / 16)] := by
  rw [decodeLast?, ha, hb]
  simp only [Option.bind_eq_bind, Option.bind_some, if_true, hx]

/-- Three symbols and padding give two bytes. -/
theorem decodeLast?_two (ha : sextet? a = some w) (hb : sextet? b = some x)
    (hc : sextet? c = some y) (hy : y % 4 = 0) :
    decodeLast? a b c pad =
      some [UInt8.ofNat (w * 4 + x / 16), UInt8.ofNat (x % 16 * 16 + y / 4)] := by
  rw [decodeLast?, ha, hb, hc]
  simp only [Option.bind_eq_bind, Option.bind_some, if_true, if_neg (ne_pad_of_sextet? hc), hy]

/-- Four symbols give three bytes. -/
theorem decodeLast?_three (ha : sextet? a = some w) (hb : sextet? b = some x)
    (hc : sextet? c = some y) (hd : sextet? d = some z) :
    decodeLast? a b c d =
      some [UInt8.ofNat (w * 4 + x / 16), UInt8.ofNat (x % 16 * 16 + y / 4),
        UInt8.ofNat (y % 4 * 64 + z)] := by
  rw [decodeLast?, ha, hb, hc, hd]
  simp only [Option.bind_eq_bind, Option.bind_some, if_neg (ne_pad_of_sextet? hd)]

/-- The reading goes on behind four symbols. -/
theorem decode?_quad (ha : sextet? a = some w) (hb : sextet? b = some x) (hc : sextet? c = some y)
    (hd : sextet? d = some z) {rest bytes : List UInt8} (hrest : decode? rest = some bytes) :
    decode? (a :: b :: c :: d :: rest) =
      some (UInt8.ofNat (w * 4 + x / 16) :: UInt8.ofNat (x % 16 * 16 + y / 4)
        :: UInt8.ofNat (y % 4 * 64 + z) :: bytes) := by
  cases rest with
  | nil =>
    obtain rfl : [] = bytes := Option.some.inj hrest
    rw [decode?, decodeLast?_three ha hb hc hd]
  | cons e rest =>
    rw [decode?, ha, hb, hc, hd, hrest]
    · rfl
    · exact List.cons_ne_nil e rest

/-- **What is written is read.** -/
theorem decode?_encode (bytes : List UInt8) : decode? (encode bytes) = some bytes := by
  induction bytes using encode.induct with
  | case1 => rfl
  | case2 p =>
    have hp := p.toNat_lt
    have hfirst : UInt8.ofNat (p.toNat / 4 * 4 + p.toNat % 4 * 16 / 16) = p := byte_eq (by omega)
    rw [encode, decode?, decodeLast?_one (sextet?_symbol (by omega)) (sextet?_symbol (by omega))
      (by omega), hfirst]
  | case3 p q =>
    have hp := p.toNat_lt
    have hq := q.toNat_lt
    have hfirst : UInt8.ofNat (p.toNat / 4 * 4 + (p.toNat % 4 * 16 + q.toNat / 16) / 16) = p :=
      byte_eq (by omega)
    have hsecond : UInt8.ofNat ((p.toNat % 4 * 16 + q.toNat / 16) % 16 * 16
        + q.toNat % 16 * 4 / 4) = q :=
      byte_eq (by omega)
    rw [encode, decode?, decodeLast?_two (sextet?_symbol (by omega)) (sextet?_symbol (by omega))
      (sextet?_symbol (by omega)) (by omega), hfirst, hsecond]
  | case4 p q r rest ih =>
    have hp := p.toNat_lt
    have hq := q.toNat_lt
    have hr := r.toNat_lt
    have hfirst : UInt8.ofNat (p.toNat / 4 * 4 + (p.toNat % 4 * 16 + q.toNat / 16) / 16) = p :=
      byte_eq (by omega)
    have hsecond : UInt8.ofNat ((p.toNat % 4 * 16 + q.toNat / 16) % 16 * 16
        + (q.toNat % 16 * 4 + r.toNat / 64) / 4) = q :=
      byte_eq (by omega)
    have hthird : UInt8.ofNat ((q.toNat % 16 * 4 + r.toNat / 64) % 4 * 64 + r.toNat % 64) = r :=
      byte_eq (by omega)
    rw [encode, decode?_quad (sextet?_symbol (by omega)) (sextet?_symbol (by omega))
      (sextet?_symbol (by omega)) (sextet?_symbol (by omega)) ih, hfirst, hsecond, hthird]

end PeerName.Base64
