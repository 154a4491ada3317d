import PeerName.Json.Writer
import PeerName.Proofs.Json.Digits
import PeerName.Proofs.Text.Utf8RoundTrip

/-!
# JSON texts that are read back

A value without fractions and without bytes is read back from its JSON text, whatever characters
its texts hold.  The text is a single line of printable ASCII.

* `Value.Plain` — the values that are read back;
* `Json.readTextFrom_encodeChar` — the escapes of one character;
* `Json.readText_encodeText` — a text between quotation marks;
* `Json.readBack_of_plain` — a value with something behind it;
* `Json.decode?_encode` — **what is written is read**;
* `Json.printable_encodeChars` — the characters of a JSON text.
-/

namespace PeerName

/-- A value that has a JSON form of its own: there are no fractions and no bytes in it, and no
record has a name twice. -/
inductive Value.Plain : Value → Prop
  | null : Plain .null
  | bool (b : Bool) : Plain (.bool b)
  | int (n : Int) : Plain (.int n)
  | text (s : String) : Plain (.text s)
  | list {items : List Value} (hitems : ∀ v ∈ items, v.Plain) : Plain (.list items)
  | record {fields : List (String × Value)} (hnames : (fields.map Prod.fst).Nodup)
      (hfields : ∀ f ∈ fields, f.2.Plain) : Plain (.record fields)

namespace Json

open Text (doubleMark)

/-! ### Characters -/

/-- The three forms of a character: a short escape, the character itself, an escape by numbers. -/
inductive CharForm (c : Char) : List Char → Prop
  | short {d : Char} (hunit : d ≠ 'u') (hd : shortEscape? d = some c)
      (hprintable : 0x20 ≤ d.toNat ∧ d.toNat ≤ 0x7e) : CharForm c ['\\', d]
  | self (hmark : c ≠ doubleMark) (hslash : c ≠ '\\') (hlow : 0x20 ≤ c.toNat)
      (hhigh : c.toNat ≤ 0x7e) : CharForm c [c]
  | unit : CharForm c (charEscape c)

theorem charForm_encodeChar (c : Char) : CharForm c (encodeChar c) := by
  have hcode {n : Nat} (h : c.toNat = n) : c = Char.ofNat n := by
    rw [← h, Char.ofNat_toNat]
  rw [encodeChar]
  split
  next h =>
    subst h
    exact .short (by decide) (by decide) (by decide)
  next hmark =>
    split
    next h =>
      subst h
      exact .short (by decide) (by decide) (by decide)
    next hslash =>
      split
      next h => exact .short (by decide) (h ▸ by decide) (by decide)
      next =>
        split
        next h => exact .short (by decide) (h ▸ by decide) (by decide)
        next =>
          split
          next h => exact .short (by decide) (h ▸ by decide) (by decide)
          next =>
            split
            next h => exact .short (by decide) (hcode h ▸ by decide) (by decide)
            next =>
              split
              next h => exact .short (by decide) (hcode h ▸ by decide) (by decide)
              next =>
                split
                next h => exact .self hmark hslash h.1 h.2
                next => exact .unit

/-- A reading goes on behind a character. -/
def consChar (c : Char) (r : List Char × List Char) : List Char × List Char := (c :: r.1, r.2)

theorem readTextFrom_escape {c : Char} {escape rest : List Char}
    (h : readEscape escape = some (c, rest)) (fuel : Nat) :
    readTextFrom (fuel + 1) ('\\' :: escape) = (readTextFrom fuel rest).map (consChar c) := by
  rw [readTextFrom, if_neg (by decide), if_pos rfl, h, Option.bind_eq_bind, Option.bind_some]
  dsimp only
  cases readTextFrom fuel rest <;> rfl

theorem readEscape_short {c d : Char} (hunit : d ≠ 'u') (hd : shortEscape? d = some c)
    (rest : List Char) : readEscape (d :: rest) = some (c, rest) := by
  rw [readEscape, hd]
  · rfl
  · exact fun h => hunit h

theorem readEscape_unit {n : Nat} (h : n < 0xd800 ∨ 0xdfff < n ∧ n < 0x10000) (rest : List Char) :
    readEscape ('u' :: (Text.hexText 4 n ++ rest)) = some (Char.ofNat n, rest) := by
  rw [readEscape, readUnit_hexText (by omega)]
  simp only [Option.bind_eq_bind, Option.bind_some]
  rw [if_neg (by omega), if_neg (by omega)]

/-- A character beyond the first plane, by its two halves. -/
theorem readEscape_pair {high low : Nat} (hhigh : 0xd800 ≤ high ∧ high < 0xdc00)
    (hlow : 0xdc00 ≤ low ∧ low < 0xe000) (rest : List Char) :
    readEscape ('u' :: (Text.hexText 4 high ++ ('\\' :: 'u' :: (Text.hexText 4 low ++ rest)))) =
      some (Char.ofNat (0x10000 + (high - 0xd800) * 0x400 + (low - 0xdc00)), rest) := by
  rw [readEscape, readUnit_hexText (by omega)]
  simp only [Option.bind_eq_bind, Option.bind_some]
  rw [if_pos hhigh, readUnit_hexText (by omega)]
  simp only [Option.bind_some]
  rw [if_pos hlow]

/-- The two halves of a character beyond the first plane. -/
theorem exists_halves {n : Nat} (hlow : 0x10000 ≤ n) (hhigh : n < 0x110000) :
    ∃ high low, 0xd800 + (n - 0x10000) / 0x400 = high ∧ 0xdc00 + (n - 0x10000) % 0x400 = low ∧
      (0xd800 ≤ high ∧ high < 0xdc00) ∧ (0xdc00 ≤ low ∧ low < 0xe000) ∧
      0x10000 + (high - 0xd800) * 0x400 + (low - 0xdc00) = n := by
  refine ⟨_, _, rfl, rfl, ?_, ?_, ?_⟩ <;> omega

/-- **One character is read back**, whatever it is. -/
theorem readTextFrom_encodeChar (c : Char) (fuel : Nat) (rest : List Char) :
    readTextFrom (fuel + 1) (encodeChar c ++ rest) =
      (readTextFrom fuel rest).map (consChar c) := by
  have hform := charForm_encodeChar c
  generalize encodeChar c = form at hform ⊢
  cases hform with
  | short hunit hd _ => exact readTextFrom_escape (readEscape_short hunit hd rest) fuel
  | self hmark hslash hlow _ =>
    have hmark' : ¬c = Char.ofNat 0x22 := hmark
    rw [List.singleton_append, readTextFrom, if_neg hmark', if_neg hslash, if_neg (by omega)]
    cases readTextFrom fuel rest <;> rfl
  | unit =>
    have hvalid := Utf8.toNat_bounds c
    rw [charEscape]
    split
    next hsmall =>
      have h := readEscape_unit (n := c.toNat) (by omega) rest
      rw [Char.ofNat_toNat] at h
      exact readTextFrom_escape h fuel
    next hlarge =>
      obtain ⟨high, low, hhigh, hlow, hhighBounds, hlowBounds, hn⟩ :=
        exists_halves (n := c.toNat) (by omega) (by omega)
      have h := readEscape_pair hhighBounds hlowBounds rest
      rw [hn, Char.ofNat_toNat] at h
      rw [hhigh, hlow, List.append_assoc]
      exact readTextFrom_escape h fuel

theorem encodeChar_ne_nil (c : Char) : encodeChar c ≠ [] := by
  have hform := charForm_encodeChar c
  generalize encodeChar c = form at hform ⊢
  cases hform with
  | short _ _ _ => exact List.cons_ne_nil _ _
  | self _ _ _ _ => exact List.cons_ne_nil _ _
  | unit =>
    rw [charEscape]
    split <;> exact List.cons_ne_nil _ _

/-! ### Texts -/

theorem readTextFrom_flatMap (s : List Char) {fuel : Nat} (hfuel : s.length < fuel)
    (rest : List Char) :
    readTextFrom fuel (s.flatMap encodeChar ++ doubleMark :: rest) = some (s, rest) := by
  induction s generalizing fuel with
  | nil =>
    obtain ⟨fuel, rfl⟩ : ∃ k, fuel = k + 1 := ⟨fuel - 1, by omega⟩
    rw [List.flatMap_nil, List.nil_append, readTextFrom]
    exact if_pos rfl
  | cons c s ih =>
    rw [List.length_cons] at hfuel
    obtain ⟨fuel, rfl⟩ : ∃ k, fuel = k + 1 := ⟨fuel - 1, by omega⟩
    rw [List.flatMap_cons, List.append_assoc, readTextFrom_encodeChar, ih (by omega)]
    rfl

theorem length_le_length_flatMap (s : List Char) : s.length ≤ (s.flatMap encodeChar).length := by
  induction s with
  | nil => exact Nat.le_refl 0
  | cons c s ih =>
    have hpos := List.length_pos_iff.mpr (encodeChar_ne_nil c)
    rw [List.flatMap_cons, List.length_cons, List.length_append]
    omega

/-- **A text is read back.** -/
theorem readText_encodeText (s : String) (rest : List Char) :
    readText (encodeText s.toList ++ rest) = some (s, rest) := by
  have hlength := length_le_length_flatMap s.toList
  have happend : encodeText s.toList ++ rest =
      doubleMark :: (s.toList.flatMap encodeChar ++ doubleMark :: rest) := by
    simp [encodeText]
  rw [happend, readText]
  rw [if_pos (show doubleMark = Char.ofNat 0x22 from rfl)]
  rw [readTextFrom_flatMap s.toList (by rw [List.length_append]; omega)]
  simp

/-- A text without surrogates among its numbers has the same form. -/
theorem encodePoints_codePoints (s : List Char) :
    encodePoints (Text.codePoints s) = encodeText s := by
  have hchar : ∀ c : Char, (if isSurrogate c.toNat then unitEscape c.toNat
      else encodeChar (Char.ofNat c.toNat)) = encodeChar c := by
    intro c
    have hvalid := Utf8.toNat_bounds c
    have hnone : isSurrogate c.toNat = false := by
      simp only [isSurrogate, Bool.and_eq_false_iff, decide_eq_false_iff_not]
      omega
    rw [hnone, Char.ofNat_toNat]
    rfl
  rw [encodePoints, encodeText, Text.codePoints, List.flatMap_map]
  simp only [hchar]

/-! ### Values -/

variable {v : Value} {c : Char} {s rest : List Char} {fuel : Nat}

theorem skipSpace_cons (h : isSpace c = false) (s : List Char) : skipSpace (c :: s) = c :: s := by
  rw [skipSpace, List.dropWhile_cons, h]
  rfl

theorem skipSpace_comma (s : List Char) : skipSpace (',' :: s) = ',' :: s := rfl

theorem skipSpace_colon (s : List Char) : skipSpace (':' :: s) = ':' :: s := rfl

theorem skipSpace_space (s : List Char) : skipSpace (' ' :: s) = skipSpace s := rfl

theorem readValue_space (fuel : Nat) (s : List Char) :
    readValue fuel (' ' :: s) = readValue fuel s := by
  cases fuel with
  | zero => rfl
  | succ fuel => rw [readValue, readValue, skipSpace_space]

theorem readItems_space (fuel : Nat) (s : List Char) :
    readItems fuel (' ' :: s) = readItems fuel s := by
  cases fuel with
  | zero => rfl
  | succ fuel => rw [readItems, readItems, readValue_space]

theorem readFields_space (fuel : Nat) (fields : List (String × Value)) (s : List Char) :
    readFields fuel fields (' ' :: s) = readFields fuel fields s := by
  cases fuel with
  | zero => rfl
  | succ fuel => rw [readFields, readFields, skipSpace_space]

theorem exists_digit (n : Nat) : ∃ d < 10, ∃ more, natText n = digitChar d :: more := by
  cases hdigits : natText n with
  | nil => exact absurd hdigits (digitsOf_ne_nil (by omega) n)
  | cons c more =>
    have hc : c ∈ digitsOf 10 n := by
      show c ∈ natText n
      rw [hdigits]
      exact List.mem_cons_self
    obtain ⟨d, hd, rfl⟩ := mem_digitsOf (by omega) hc
    exact ⟨d, hd, more, rfl⟩

theorem readValue_digit {d : Nat} (hd : d < 10) (fuel : Nat) (s : List Char) :
    readValue (fuel + 1) (digitChar d :: s) = readNumber (digitChar d :: s) := by
  interval_cases d <;> rfl

theorem readValue_minus {d : Nat} (hd : d < 10) (fuel : Nat) (s : List Char) :
    readValue (fuel + 1) ('-' :: digitChar d :: s) = readNumber ('-' :: digitChar d :: s) := by
  interval_cases d <;> rfl

/-- A number is read by the reader of numbers. -/
theorem readValue_intText (n : Int) (hrest : Stops rest) (fuel : Nat) :
    readValue (fuel + 1) (intText n ++ rest) = some (.int n, rest) := by
  have hread := readNumber_intText n hrest
  obtain ⟨d, hd, more, hdigits⟩ := exists_digit n.natAbs
  rw [intText, hdigits] at hread ⊢
  split
  next hneg =>
    rw [if_pos hneg] at hread
    exact (readValue_minus hd fuel _).trans hread
  next hpos =>
    rw [if_neg hpos] at hread
    exact (readValue_digit hd fuel _).trans hread

theorem readValue_encodeText (text : String) (fuel : Nat) (rest : List Char) :
    readValue (fuel + 1) (encodeText text.toList ++ rest) = some (.text text, rest) := by
  have hread := readText_encodeText text rest
  have hstep : readValue (fuel + 1) (encodeText text.toList ++ rest) =
      (readText (encodeText text.toList ++ rest)).map fun r => (.text r.1, r.2) := rfl
  rw [hstep, hread]
  rfl

/-- How a JSON text begins: neither with a blank nor with a closing bracket. -/
theorem encodeChars_head (h : v.Plain) :
    ∃ c more, encodeChars v = c :: more ∧ isSpace c = false ∧ c ≠ ']' := by
  cases h with
  | null => exact ⟨'n', _, rfl, by decide, by decide⟩
  | bool b => cases b <;> exact ⟨_, _, rfl, by decide, by decide⟩
  | int n =>
    obtain ⟨d, hd, more, hdigits⟩ := exists_digit n.natAbs
    show ∃ c more, intText n = c :: more ∧ _
    rw [intText, hdigits]
    split
    · exact ⟨'-', _, rfl, by decide, by decide⟩
    · refine ⟨digitChar d, more, rfl, ?_⟩
      interval_cases d <;> decide
  | text s => exact ⟨doubleMark, _, rfl, by decide, by decide⟩
  | list _ => exact ⟨'[', _, rfl, by decide, by decide⟩
  | record _ _ => exact ⟨Char.ofNat 0x7b, _, rfl, by decide, by decide⟩

theorem encodeChars_ne_nil (h : v.Plain) : encodeChars v ≠ [] := by
  obtain ⟨c, more, heq, -, -⟩ := encodeChars_head h
  rw [heq]
  exact List.cons_ne_nil c more

theorem readValue_openList (hspace : isSpace c = false) (hclose : c ≠ ']') (fuel : Nat)
    (s : List Char) :
    readValue (fuel + 1) ('[' :: c :: s) =
      (readItems fuel (c :: s)).map fun r => (.list r.1, r.2) := by
  rw [readValue, skipSpace_cons (by decide)]
  simp only [skipSpace_cons hspace]
  simp [hclose]

theorem readValue_openRecord (fuel : Nat) (s : List Char) :
    readValue (fuel + 1) (Char.ofNat 0x7b :: doubleMark :: s) =
      (readFields fuel [] (doubleMark :: s)).map fun r => (.record r.1, r.2) := rfl

theorem stops_comma (rest : List Char) : Stops (',' :: rest) :=
  stops_cons (by decide) (by decide) (by decide) (by decide) rest

theorem stops_bracket (rest : List Char) : Stops (']' :: rest) :=
  stops_cons (by decide) (by decide) (by decide) (by decide) rest

theorem stops_brace (rest : List Char) : Stops (Char.ofNat 0x7d :: rest) :=
  stops_cons (by decide) (by decide) (by decide) (by decide) rest

/-- A value is read back with what stands behind it, given as much fuel as its text is long. -/
def ReadBack (v : Value) : Prop :=
  ∀ fuel rest, (encodeChars v).length ≤ fuel → Stops rest →
    readValue fuel (encodeChars v ++ rest) = some (v, rest)

theorem encodeItems_cons (v w : Value) (items : List Value) :
    encodeItems (v :: w :: items) = encodeChars v ++ ',' :: ' ' :: encodeItems (w :: items) := by
  rw [encodeItems]
  exact fun h => nomatch h

/-- The items of a list up to its end. -/
theorem readItems_encodeItems {items : List Value} (hne : items ≠ [])
    (hback : ∀ v ∈ items, ReadBack v) (hfuel : (encodeItems items).length < fuel)
    (rest : List Char) :
    readItems fuel (encodeItems items ++ ']' :: rest) = some (items, rest) := by
  induction items generalizing fuel with
  | nil => exact absurd rfl hne
  | cons v items ih =>
    obtain ⟨fuel, rfl⟩ : ∃ k, fuel = k + 1 := ⟨fuel - 1, by omega⟩
    have hv := hback v List.mem_cons_self
    cases items with
    | nil =>
      have hlength : (encodeChars v).length ≤ fuel := by
        rw [encodeItems] at hfuel
        omega
      rw [encodeItems, readItems, hv fuel _ hlength (stops_bracket rest)]
      rfl
    | cons w items =>
      rw [encodeItems_cons, List.length_append, List.length_cons, List.length_cons] at hfuel
      have hrest : readItems fuel (encodeItems (w :: items) ++ ']' :: rest) =
          some (w :: items, rest) :=
        ih (List.cons_ne_nil w items) (fun u hu => hback u (List.mem_cons_of_mem v hu)) (by omega)
      rw [encodeItems_cons, List.append_assoc, List.cons_append, List.cons_append, readItems,
        hv fuel _ (by omega) (stops_comma _)]
      simp only [Option.bind_eq_bind, Option.bind_some, skipSpace_comma, readItems_space, hrest]

theorem putField_of_notMem {fields : List (String × Value)} {name : String}
    (h : name ∉ fields.map Prod.fst) (v : Value) :
    putField fields name v = fields ++ [(name, v)] := by
  have hnone : fields.any (·.1 == name) = false := by
    rw [List.any_eq_false]
    intro f hf hname
    exact h (eq_of_beq hname ▸ List.mem_map_of_mem hf)
  rw [putField, hnone, if_neg Bool.false_ne_true]

theorem encodeFields_cons (name : String) (v : Value) (f : String × Value)
    (fields : List (String × Value)) :
    encodeFields ((name, v) :: f :: fields) =
      encodeText name.toList ++ ':' :: ' ' :: encodeChars v ++ ',' :: ' ' ::
        encodeFields (f :: fields) := by
  rw [encodeFields]
  exact fun h => nomatch h

/-- How a record goes on behind a named value. -/
def afterField (fuel : Nat) (fields : List (String × Value)) (rest : List Char) :
    Option (List (String × Value) × List Char) :=
  match skipSpace rest with
  | ',' :: rest => readFields fuel fields rest
  | c :: rest => if c = Char.ofNat 0x7d then some (fields, rest) else none
  | [] => none

theorem afterField_brace (fuel : Nat) (fields : List (String × Value)) (rest : List Char) :
    afterField fuel fields (Char.ofNat 0x7d :: rest) = some (fields, rest) := rfl

theorem afterField_comma (fuel : Nat) (fields : List (String × Value)) (rest : List Char) :
    afterField fuel fields (',' :: ' ' :: rest) = readFields fuel fields rest :=
  readFields_space fuel fields rest

/-- One named value, with what stands behind it. -/
theorem readFields_field {name : String} (hback : ReadBack v)
    {before : List (String × Value)} (hname : name ∉ before.map Prod.fst)
    (hfuel : (encodeChars v).length ≤ fuel) (hrest : Stops rest) :
    readFields (fuel + 1) before (encodeText name.toList ++ ':' :: ' ' :: encodeChars v ++ rest) =
      afterField fuel (before ++ [(name, v)]) rest := by
  have hspace : skipSpace (encodeText name.toList ++ ':' :: ' ' :: (encodeChars v ++ rest)) =
      encodeText name.toList ++ ':' :: ' ' :: (encodeChars v ++ rest) := rfl
  rw [List.append_assoc, List.cons_append, List.cons_append, readFields, hspace,
    readText_encodeText]
  simp only [Option.bind_eq_bind, Option.bind_some, skipSpace_colon, readValue_space,
    hback fuel rest hfuel hrest, putField_of_notMem hname]
  rfl

/-- The named values of a record up to its end. -/
theorem readFields_encodeFields {fields : List (String × Value)} (hne : fields ≠ [])
    (hback : ∀ f ∈ fields, ReadBack f.2) {before : List (String × Value)}
    (hnames : ((before ++ fields).map Prod.fst).Nodup)
    (hfuel : (encodeFields fields).length < fuel) (rest : List Char) :
    readFields fuel before (encodeFields fields ++ Char.ofNat 0x7d :: rest) =
      some (before ++ fields, rest) := by
  induction fields generalizing fuel before with
  | nil => exact absurd rfl hne
  | cons f fields ih =>
    obtain ⟨fuel, rfl⟩ : ∃ k, fuel = k + 1 := ⟨fuel - 1, by omega⟩
    obtain ⟨name, v⟩ := f
    have hv : ReadBack v := hback (name, v) List.mem_cons_self
    have hname : name ∉ before.map Prod.fst := by
      intro hmem
      rw [List.map_append, List.map_cons, List.nodup_append] at hnames
      exact hnames.2.2 name hmem name List.mem_cons_self rfl
    cases fields with
    | nil =>
      rw [encodeFields, List.length_append, List.length_cons, List.length_cons] at hfuel
      rw [encodeFields, readFields_field hv hname (by omega) (stops_brace rest), afterField_brace]
    | cons g fields =>
      rw [encodeFields_cons] at hfuel ⊢
      simp only [List.length_append, List.length_cons] at hfuel
      have hrest : readFields fuel (before ++ [(name, v)])
          (encodeFields (g :: fields) ++ Char.ofNat 0x7d :: rest) =
          some (before ++ [(name, v)] ++ g :: fields, rest) := by
        apply ih (List.cons_ne_nil g fields)
        · intro f hf
          exact hback f (List.mem_cons_of_mem _ hf)
        · rwa [List.append_assoc]
        · omega
      rw [List.append_assoc _ (',' :: _), List.cons_append, List.cons_append,
        readFields_field hv hname (by omega) (stops_comma _), afterField_comma, hrest,
        List.append_assoc, List.singleton_append]

theorem exists_fuel (h : v.Plain) (hfuel : (encodeChars v).length ≤ fuel) :
    ∃ k, fuel = k + 1 := by
  have hpos := List.length_pos_iff.mpr (encodeChars_ne_nil h)
  exact ⟨fuel - 1, by omega⟩

/-- A list is read back if its items are. -/
theorem readBack_list {items : List Value} (hitems : ∀ v ∈ items, v.Plain)
    (hback : ∀ v ∈ items, ReadBack v) : ReadBack (.list items) := by
  intro fuel rest hfuel _
  obtain ⟨fuel, rfl⟩ := exists_fuel (.list hitems) hfuel
  cases items with
  | nil => rfl
  | cons w items =>
    have hlength : (encodeItems (w :: items)).length < fuel := by
      rw [encodeChars, List.length_cons, List.length_append, List.length_singleton] at hfuel
      omega
    have hread := readItems_encodeItems (List.cons_ne_nil w items) hback hlength rest
    -- the list does not end where its first item begins
    obtain ⟨c, more, hhead, hspace, hclose⟩ := encodeChars_head (hitems w List.mem_cons_self)
    obtain ⟨tail, htail⟩ : ∃ tail, encodeItems (w :: items) = c :: tail := by
      cases items with
      | nil => exact ⟨more, by rw [encodeItems, hhead]⟩
      | cons u items => exact ⟨_, by rw [encodeItems_cons, hhead, List.cons_append]⟩
    rw [encodeChars, List.cons_append, List.append_assoc, List.singleton_append]
    rw [htail, List.cons_append] at hread ⊢
    rw [readValue_openList hspace hclose, hread]
    rfl

/-- A record is read back if its values are, and no name is there twice. -/
theorem readBack_record {fields : List (String × Value)} (hnames : (fields.map Prod.fst).Nodup)
    (hfields : ∀ f ∈ fields, f.2.Plain) (hback : ∀ f ∈ fields, ReadBack f.2) :
    ReadBack (.record fields) := by
  intro fuel rest hfuel _
  obtain ⟨fuel, rfl⟩ := exists_fuel (.record hnames hfields) hfuel
  cases fields with
  | nil => rfl
  | cons f fields =>
    have hlength : (encodeFields (f :: fields)).length < fuel := by
      rw [encodeChars, List.length_cons, List.length_append, List.length_singleton] at hfuel
      omega
    have hread : readFields fuel [] (encodeFields (f :: fields) ++ Char.ofNat 0x7d :: rest) =
        some (f :: fields, rest) :=
      readFields_encodeFields (List.cons_ne_nil f fields) hback hnames hlength rest
    obtain ⟨tail, htail⟩ : ∃ tail, encodeFields (f :: fields) = doubleMark :: tail := by
      obtain ⟨name, v⟩ := f
      cases fields with
      | nil => exact ⟨_, by rw [encodeFields, encodeText]; rfl⟩
      | cons g fields => exact ⟨_, by rw [encodeFields_cons, encodeText]; rfl⟩
    rw [encodeChars, List.cons_append, List.append_assoc, List.singleton_append]
    rw [htail, List.cons_append] at hread ⊢
    rw [readValue_openRecord, hread]
    rfl

/-- **A value is read back**, with what stands behind it. -/
theorem readBack_of_plain (h : v.Plain) : ReadBack v := by
  induction h with
  | null =>
    intro fuel rest hfuel _
    obtain ⟨fuel, rfl⟩ := exists_fuel .null hfuel
    rfl
  | bool b =>
    intro fuel rest hfuel _
    obtain ⟨fuel, rfl⟩ := exists_fuel (.bool b) hfuel
    cases b <;> rfl
  | int n =>
    intro fuel rest hfuel hrest
    obtain ⟨fuel, rfl⟩ := exists_fuel (.int n) hfuel
    exact readValue_intText n hrest fuel
  | text s =>
    intro fuel rest hfuel _
    obtain ⟨fuel, rfl⟩ := exists_fuel (.text s) hfuel
    exact readValue_encodeText s fuel rest
  | list hitems ih => exact readBack_list hitems ih
  | record hnames hfields ih => exact readBack_record hnames hfields ih

/-- **What is written is read**: a value, from its JSON text. -/
theorem decode?_encode (h : v.Plain) : decode? (encode v) = some v := by
  have hread := readBack_of_plain h ((encodeChars v).length + 1) [] (Nat.le_succ _) stops_nil
  rw [List.append_nil] at hread
  rw [decode?, encode, String.toList_ofList, hread]
  rfl

/-! ### One line -/

/-- A text of printable ASCII. -/
def Printable (s : List Char) : Prop := ∀ c ∈ s, 0x20 ≤ c.toNat ∧ c.toNat ≤ 0x7e

theorem Printable.append {s t : List Char} (hs : Printable s) (ht : Printable t) :
    Printable (s ++ t) := by
  intro c hc
  rcases List.mem_append.mp hc with hc | hc
  · exact hs c hc
  · exact ht c hc

theorem Printable.cons {s : List Char} (hc : 0x20 ≤ c.toNat ∧ c.toNat ≤ 0x7e) (hs : Printable s) :
    Printable (c :: s) := by
  intro d hd
  rcases List.mem_cons.mp hd with rfl | hd
  · exact hc
  · exact hs d hd

theorem printable_of_all {s : List Char}
    (h : (s.all fun c => decide (0x20 ≤ c.toNat ∧ c.toNat ≤ 0x7e)) = true) : Printable s := by
  intro c hc
  exact of_decide_eq_true (List.all_eq_true.mp h c hc)

theorem printable_nil : Printable [] := by
  intro c hc
  cases hc

theorem printable_digitsOf {base : Nat} (hbase : 2 ≤ base) (hsmall : base ≤ 16) (n : Nat) :
    Printable (digitsOf base n) := by
  intro c hc
  obtain ⟨d, hd, rfl⟩ := mem_digitsOf hbase hc
  have hd : d < 16 := by omega
  interval_cases d <;> decide

theorem printable_hexText (width n : Nat) : Printable (Text.hexText width n) := by
  rw [Text.hexText, zeroFill]
  apply Printable.append _ (printable_digitsOf (by omega) (by omega) n)
  intro c hc
  rw [List.eq_of_mem_replicate hc]
  decide

theorem printable_unitEscape (n : Nat) : Printable (unitEscape n) :=
  .cons (by decide) (.cons (by decide) (printable_hexText 4 n))

theorem printable_encodeChar (c : Char) : Printable (encodeChar c) := by
  have hform := charForm_encodeChar c
  generalize encodeChar c = form at hform ⊢
  cases hform with
  | short _ _ hd => exact .cons (by decide) (.cons hd printable_nil)
  | self _ _ hlow hhigh => exact .cons ⟨hlow, hhigh⟩ printable_nil
  | unit =>
    rw [charEscape]
    split
    · exact printable_unitEscape _
    · exact (printable_unitEscape _).append (printable_unitEscape _)

theorem printable_encodeText (s : List Char) : Printable (encodeText s) := by
  apply Printable.cons (by decide)
  apply Printable.append _ (.cons (by decide) printable_nil)
  intro c hc
  obtain ⟨d, -, hd⟩ := List.mem_flatMap.mp hc
  exact printable_encodeChar d c hd

theorem printable_encodeItems {items : List Value}
    (hitems : ∀ v ∈ items, Printable (encodeChars v)) : Printable (encodeItems items) := by
  induction items with
  | nil => exact printable_nil
  | cons v items ih =>
    have hv := hitems v List.mem_cons_self
    cases items with
    | nil => rwa [encodeItems]
    | cons w items =>
      rw [encodeItems_cons]
      apply hv.append
      exact .cons (by decide) (.cons (by decide)
        (ih fun u hu => hitems u (List.mem_cons_of_mem v hu)))

theorem printable_encodeFields {fields : List (String × Value)}
    (hfields : ∀ f ∈ fields, Printable (encodeChars f.2)) : Printable (encodeFields fields) := by
  induction fields with
  | nil => exact printable_nil
  | cons f fields ih =>
    have hf : Printable (encodeText f.1.toList ++ ':' :: ' ' :: encodeChars f.2) :=
      (printable_encodeText _).append
        (.cons (by decide) (.cons (by decide) (hfields f List.mem_cons_self)))
    cases fields with
    | nil => exact hf
    | cons g fields =>
      rw [encodeFields_cons]
      apply hf.append
      exact .cons (by decide) (.cons (by decide)
        (ih fun u hu => hfields u (List.mem_cons_of_mem f hu)))

/-- **A JSON text is one line** of printable ASCII. -/
theorem printable_encodeChars (h : v.Plain) : Printable (encodeChars v) := by
  induction h with
  | null => exact printable_of_all (show ['n', 'u', 'l', 'l'].all _ = true by decide)
  | bool b =>
    cases b with
    | false => exact printable_of_all (show ['f', 'a', 'l', 's', 'e'].all _ = true by decide)
    | true => exact printable_of_all (show ['t', 'r', 'u', 'e'].all _ = true by decide)
  | int n =>
    show Printable (intText n)
    rw [intText]
    split
    · exact .cons (by decide) (printable_digitsOf (by omega) (by omega) _)
    · exact printable_digitsOf (by omega) (by omega) _
  | text s => exact printable_encodeText s.toList
  | list _ ih =>
    rw [encodeChars]
    exact .cons (by decide) ((printable_encodeItems ih).append (.cons (by decide) printable_nil))
  | record _ _ ih =>
    rw [encodeChars]
    exact .cons (by decide) ((printable_encodeFields ih).append (.cons (by decide) printable_nil))

end Json

end PeerName
