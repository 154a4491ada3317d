import Mathlib.Tactic.IntervalCases
import PeerName.Json.Reader
import PeerName.Text.Quoted

/-!
# Digits that are read back

The digits of a number are written from the last one, with as many steps as the number has binary
digits, which is always enough.  Read as digits to the same base they give the number.

* `digitsFrom_eq` — how many steps are taken does not matter if they are enough;
* `digitsOf_of_lt`, `digitsOf_of_le` — the digits of a number by those of its quotient;
* `Json.digitsValue_natText` — decimal digits;
* `Json.readUnit_hexText` — four hexadecimal digits;
* `Json.readNumber_intText` — **an integer that is read back**.
-/

namespace PeerName

variable {base n d : Nat}

/-! ### Writing -/

/-- How many steps are taken does not matter if they are enough. -/
theorem digitsFrom_eq (hbase : 2 ≤ base) {fuel more : Nat} (hfuel : n < 2 ^ fuel)
    (hmore : n < 2 ^ more) (hpos : 0 < fuel) (hpos' : 0 < more) :
    digitsFrom base fuel n = digitsFrom base more n := by
  induction fuel generalizing n more with
  | zero => omega
  | succ fuel ih =>
    obtain ⟨more, rfl⟩ : ∃ k, more = k + 1 := ⟨more - 1, by omega⟩
    rw [digitsFrom, digitsFrom]
    by_cases hlast : n / base = 0
    · rw [if_pos hlast, if_pos hlast]
    · rw [if_neg hlast, if_neg hlast]
      have hhalf : n / base ≤ n / 2 := Nat.div_le_div_left hbase (by omega)
      have hsmall {k : Nat} (hk : n < 2 ^ (k + 1)) : n / base < 2 ^ k ∧ 0 < k := by
        rw [Nat.pow_succ] at hk
        have hlt : n / base < 2 ^ k := by omega
        refine ⟨hlt, ?_⟩
        by_contra hzero
        obtain rfl : k = 0 := by omega
        exact hlast (Nat.lt_one_iff.mp hlt)
      obtain ⟨hn, hf⟩ := hsmall hfuel
      obtain ⟨hn', hm⟩ := hsmall hmore
      rw [ih hn hn' hf hm]

theorem digitsOf_of_lt (h : n < base) : digitsOf base n = [digitChar n] := by
  have hzero : n / base = 0 := Nat.div_eq_of_lt h
  rw [digitsOf, digitsFrom, if_pos hzero, Nat.mod_eq_of_lt h]
  rfl

theorem digitsOf_of_le (hbase : 2 ≤ base) (h : base ≤ n) :
    digitsOf base n = digitsOf base (n / base) ++ [digitChar (n % base)] := by
  have hpos : 0 < n / base := Nat.div_pos h (by omega)
  have hhalf : n / base ≤ n / 2 := Nat.div_le_div_left hbase (by omega)
  have hself : n < 2 ^ (n.log2 + 1) := Nat.lt_log2_self
  have hlog : 0 < n.log2 := by
    by_contra hzero
    have hzero : n.log2 = 0 := by omega
    rw [hzero] at hself
    omega
  have hfuel : n / base < 2 ^ n.log2 := by
    rw [Nat.pow_succ] at hself
    omega
  have hrest : digitsFrom base n.log2 (n / base) =
      digitsFrom base ((n / base).log2 + 1) (n / base) :=
    digitsFrom_eq hbase hfuel Nat.lt_log2_self hlog (Nat.succ_pos _)
  rw [digitsOf, digitsFrom, if_neg (by omega), List.reverse_cons, hrest]
  rfl

/-- What holds of one digit, and of digits with one more behind them, holds of all digits. -/
theorem digits_induction (hbase : 2 ≤ base) {motive : Nat → Prop}
    (one : ∀ n < base, motive n) (more : ∀ n, base ≤ n → motive (n / base) → motive n) (n : Nat) :
    motive n := by
  induction n using Nat.strongRecOn with
  | ind n ih =>
    by_cases h : n < base
    · exact one n h
    · have hdiv : n / base < n := Nat.div_lt_self (by omega) hbase
      exact more n (by omega) (ih _ hdiv)

theorem digitsOf_ne_nil (hbase : 2 ≤ base) (n : Nat) : digitsOf base n ≠ [] := by
  by_cases h : n < base
  · rw [digitsOf_of_lt h]
    exact List.cons_ne_nil _ _
  · rw [digitsOf_of_le hbase (by omega)]
    exact List.append_ne_nil_of_right_ne_nil _ (List.cons_ne_nil _ _)

theorem mem_digitsOf (hbase : 2 ≤ base) {c : Char} (h : c ∈ digitsOf base n) :
    ∃ d < base, c = digitChar d := by
  induction n using digits_induction hbase with
  | one n hn =>
    rw [digitsOf_of_lt hn, List.mem_singleton] at h
    exact ⟨n, hn, h⟩
  | more n hn ih =>
    rw [digitsOf_of_le hbase hn, List.mem_append, List.mem_singleton] at h
    rcases h with h | h
    · exact ih h
    · exact ⟨n % base, Nat.mod_lt _ (by omega), h⟩

/-- The first digit is no zero, but for the number zero. -/
theorem head?_digitsOf (hbase : 2 ≤ base) (hpos : 0 < n) :
    ∃ d, 0 < d ∧ d < base ∧ (digitsOf base n).head? = some (digitChar d) := by
  induction n using digits_induction hbase with
  | one n hn => exact ⟨n, hpos, hn, by rw [digitsOf_of_lt hn, List.head?_cons]⟩
  | more n hn ih =>
    obtain ⟨d, hd, hlt, hhead⟩ := ih (Nat.div_pos hn (by omega))
    refine ⟨d, hd, hlt, ?_⟩
    rw [digitsOf_of_le hbase hn, List.head?_append, hhead]
    rfl

/-! ### Decimal digits -/

theorem isDigit_digitChar (h : d < 10) : (digitChar d).isDigit = true := by
  interval_cases d <;> decide

theorem toNat_digitChar (h : d < 10) : (digitChar d).toNat - 0x30 = d := by
  interval_cases d <;> decide

theorem digitChar_ne_zero (hpos : 0 < d) (h : d < 10) : digitChar d ≠ '0' := by
  interval_cases d <;> decide

theorem natText_isDigit (n : Nat) : ∀ c ∈ natText n, c.isDigit = true := by
  intro c hc
  obtain ⟨d, hd, rfl⟩ := mem_digitsOf (by omega) hc
  exact isDigit_digitChar hd

namespace Json

/-- Decimal digits give the number that they were written for. -/
theorem digitsValue_natText (n : Nat) : digitsValue (natText n) = n := by
  have hbase : 2 ≤ 10 := by omega
  rw [natText]
  induction n using digits_induction hbase with
  | one n hn =>
    rw [digitsOf_of_lt hn, digitsValue, List.foldl_cons, List.foldl_nil, toNat_digitChar hn]
    omega
  | more n hn ih =>
    rw [digitsOf_of_le (by omega) hn, digitsValue, List.foldl_append, List.foldl_cons,
      List.foldl_nil, toNat_digitChar (Nat.mod_lt _ (by omega))]
    rw [digitsValue] at ih
    rw [ih]
    omega

/-- What follows a number does not belong to it. -/
def Stops (rest : List Char) : Prop :=
  ∀ c, rest.head? = some c → c.isDigit = false ∧ c ≠ '.' ∧ c ≠ 'e' ∧ c ≠ 'E'

theorem stops_nil : Stops [] := by
  intro c h
  cases h

theorem stops_cons {c : Char} (hdigit : c.isDigit = false) (hpoint : c ≠ '.') (hlower : c ≠ 'e')
    (hupper : c ≠ 'E') (rest : List Char) : Stops (c :: rest) := by
  intro d h
  obtain rfl := Option.some.inj h
  exact ⟨hdigit, hpoint, hlower, hupper⟩

theorem takeWhile_append_of_stops {digits rest : List Char}
    (hdigits : ∀ c ∈ digits, c.isDigit = true) (hrest : Stops rest) :
    (digits ++ rest).takeWhile Char.isDigit = digits ∧
      (digits ++ rest).dropWhile Char.isDigit = rest := by
  have hnone : rest.takeWhile Char.isDigit = [] ∧ rest.dropWhile Char.isDigit = rest := by
    cases rest with
    | nil => exact ⟨rfl, rfl⟩
    | cons c more =>
      have hc : c.isDigit = false := (hrest c rfl).1
      simp [hc]
  rw [List.takeWhile_append_of_pos hdigits, List.dropWhile_append_of_pos hdigits, hnone.1, hnone.2,
    List.append_nil]
  exact ⟨rfl, rfl⟩

/-- A natural number does not begin with a zero unless it is zero. -/
theorem natText_head (n : Nat) : ¬((natText n).head? = some '0' ∧ (natText n).length ≠ 1) := by
  intro h
  obtain ⟨hhead, hlength⟩ := h
  have hbase : 2 ≤ 10 := by omega
  by_cases hpos : 0 < n
  · obtain ⟨d, hd, hlt, hdigit⟩ := head?_digitsOf hbase hpos
    rw [natText, hdigit] at hhead
    exact digitChar_ne_zero hd hlt (Option.some.inj hhead)
  · obtain rfl : n = 0 := by omega
    exact hlength rfl

/-- Digits with something behind them that stops a number, and perhaps a sign before them. -/
theorem readNumber_digits {s : List Char} (n : Nat) {rest : List Char} (hrest : Stops rest)
    (hbody : (if s.head? = some '-' then s.drop 1 else s) = natText n ++ rest) :
    readNumber s = some (.int (if s.head? = some '-' then -(n : Int) else n), rest) := by
  obtain ⟨htake, hdrop⟩ := takeWhile_append_of_stops (natText_isDigit n) hrest
  have hwhole : ¬((natText n).isEmpty = true ∨
      (natText n).head? = some '0' ∧ (natText n).length ≠ 1) := by
    rw [List.isEmpty_iff]
    intro h
    rcases h with h | h
    · exact digitsOf_ne_nil (by omega) n h
    · exact natText_head n h
  rw [readNumber]
  simp only [hbody, htake, hdrop, if_neg hwhole, digitsValue_natText]
  cases rest with
  | nil => rfl
  | cons c more =>
    obtain ⟨-, hpoint, hlower, hupper⟩ := hrest c rfl
    simp [hpoint, hlower, hupper]

/-- **An integer is read back.** -/
theorem readNumber_intText (n : Int) {rest : List Char} (hrest : Stops rest) :
    readNumber (intText n ++ rest) = some (.int n, rest) := by
  rw [intText]
  by_cases hneg : n < 0
  · rw [if_pos hneg, List.cons_append]
    rw [readNumber_digits n.natAbs hrest (by rw [List.head?_cons, if_pos rfl]; rfl),
      List.head?_cons, if_pos rfl]
    have habs : -(n.natAbs : Int) = n := by omega
    rw [habs]
  · rw [if_neg hneg]
    have hhead : ¬(natText n.natAbs ++ rest).head? = some '-' := by
      rw [List.head?_append]
      cases hdigits : natText n.natAbs with
      | nil => exact absurd hdigits (digitsOf_ne_nil (by omega) _)
      | cons c more =>
        have hc : c.isDigit = true := natText_isDigit n.natAbs c (by rw [hdigits]; simp)
        intro h
        obtain rfl := Option.some.inj h
        exact Bool.false_ne_true hc
    rw [readNumber_digits n.natAbs hrest (if_neg hhead), if_neg hhead]
    have habs : (n.natAbs : Int) = n := by omega
    rw [habs]

/-! ### Hexadecimal digits -/

theorem hexValue?_digitChar (h : d < 16) : hexValue? (digitChar d) = some d := by
  interval_cases d <;> decide

/-- One digit less, when the width leaves room for it. -/
theorem hexText_succ (width n : Nat) :
    Text.hexText (width + 2) n = Text.hexText (width + 1) (n / 16) ++ [digitChar (n % 16)] := by
  rw [Text.hexText, Text.hexText, zeroFill, zeroFill]
  by_cases h : n < 16
  · have hzero : n / 16 = 0 := by omega
    rw [hzero, digitsOf_of_lt h, digitsOf_of_lt (by omega), Nat.mod_eq_of_lt h]
    simp only [List.length_singleton, Nat.add_sub_cancel]
    show List.replicate (width + 1) '0' ++ _ = _
    rw [List.replicate_succ']
    rfl
  · rw [digitsOf_of_le (by omega) (by omega), List.length_append, List.length_singleton,
      ← List.append_assoc]
    have hwidth : width + 2 - ((digitsOf 16 (n / 16)).length + 1) =
        width + 1 - (digitsOf 16 (n / 16)).length := by
      omega
    rw [hwidth]

/-- Four hexadecimal digits are read as the number that they were written for. -/
theorem readUnit_hexText (h : n < 0x10000) (rest : List Char) :
    readUnit (Text.hexText 4 n ++ rest) = some (n, rest) := by
  have hfirst : Text.hexText 1 (n / 16 / 16 / 16) = [digitChar (n / 16 / 16 / 16)] := by
    rw [Text.hexText, zeroFill, digitsOf_of_lt (by omega)]
    rfl
  have htext : Text.hexText 4 n = [digitChar (n / 16 / 16 / 16), digitChar (n / 16 / 16 % 16),
      digitChar (n / 16 % 16), digitChar (n % 16)] := by
    rw [hexText_succ, hexText_succ, hexText_succ, hfirst]
    rfl
  have hvalue : ((n / 16 / 16 / 16 * 16 + n / 16 / 16 % 16) * 16 + n / 16 % 16) * 16 + n % 16 =
      n := by
    omega
  rw [htext]
  show readUnit (_ :: _ :: _ :: _ :: rest) = _
  rw [readUnit, hexValue?_digitChar (by omega), hexValue?_digitChar (by omega),
    hexValue?_digitChar (by omega), hexValue?_digitChar (by omega)]
  simp only [Option.bind_eq_bind, Option.bind_some, hvalue]

end Json

end PeerName
