import Mathlib.Data.List.Chain
import PeerName.Proofs.Pem.Base64
import PeerName.Proofs.Pem.Mark
import PeerName.Proofs.Text.Ascii

/-!
# Blocks that are written and read

The lines of a block hold symbols and line ends only.  No line is empty, so nothing in a block is
taken for headers; no line has a dash, so the block ends at its closing line; and what is left
without the line ends are the symbols.  In front of the block stands text without five dashes, which
ends with a line feed if there is any; behind it stands text without five dashes.

In the other direction every block that is read stands in the bytes with its opening line.

* `IsLineEnd`, `IsDatum`, `IsLabel` — line ends, the bytes of data, and the names of blocks;
* `Broken`, `broken_wrapLines` — data with line ends put in, of which lines of a width are one case;
* `splitHeaders_of_isChain`, `block?_broken` — the data of a block;
* `readBlock?_closed`, `blocks?_closed` — **the block between texts is the only one**;
* `openingLine_infix` — **what is read has its opening line in the bytes**.
-/

namespace PeerName.Pem

variable {b : UInt8} {width room : Nat} {label : String} {lineEnd symbols data : List UInt8}

/-! ### Lines of data -/

/-- A line ends with a line feed, and there can be a carriage return in front of it. -/
def IsLineEnd (lineEnd : List UInt8) : Prop := lineEnd = [0x0a] ∨ lineEnd = [0x0d, 0x0a]

theorem IsLineEnd.isSpace (h : IsLineEnd lineEnd) : ∀ b ∈ lineEnd, isSpace b = true := by
  obtain rfl | rfl := h <;> exact List.all_eq_true.mp rfl

theorem IsLineEnd.toNat_lt (h : IsLineEnd lineEnd) : ∀ b ∈ lineEnd, b.toNat < 0x80 := by
  obtain rfl | rfl := h <;> exact Utf8.toNat_lt_of_all (by decide)

theorem IsLineEnd.getLast? (h : IsLineEnd lineEnd) : lineEnd.getLast? = some 0x0a := by
  obtain rfl | rfl := h <;> rfl

/-- A byte of data: an ASCII character that is neither a dash nor passed over. -/
structure IsDatum (b : UInt8) : Prop where
  ascii : b.toNat < 0x80
  ne_dash : b ≠ 0x2d
  not_filler : isFiller (Char.ofNat b.toNat) = false

theorem isDatum_symbol (n : Nat) (h : n < 64) : IsDatum (Base64.symbol n) := by
  have hascii : ∀ n < 64, (Base64.symbol n).toNat < 0x80 := by decide
  have hdash : ∀ n < 64, Base64.symbol n ≠ 0x2d := by decide
  have hfiller : ∀ n < 64, isFiller (Char.ofNat (Base64.symbol n).toNat) = false := by
    decide
  exact ⟨hascii n h, hdash n h, hfiller n h⟩

/-- Base64 is written with bytes of data. -/
theorem isDatum_of_mem (h : b ∈ Base64.encode data) : IsDatum b := by
  rcases Base64.eq_symbol_or_pad_of_mem h with ⟨n, hn, rfl⟩ | rfl
  · exact isDatum_symbol n hn
  · exact ⟨by decide, by decide, by decide⟩

theorem IsDatum.ne_feed (h : IsDatum b) : b ≠ 0x0a := by
  rintro rfl
  exact absurd h.not_filler (by decide)

theorem IsDatum.ne_return (h : IsDatum b) : b ≠ 0x0d := by
  rintro rfl
  exact absurd h.not_filler (by decide)

/-- Symbols with line ends put in: a line end can stand in front of each symbol, but no two of them
stand side by side, and one stands at the end. -/
inductive Broken (lineEnd : List UInt8) : List UInt8 → List UInt8 → Prop where
  | last (front : List UInt8) (b : UInt8) (hfront : front = [] ∨ front = lineEnd) :
      Broken lineEnd [b] (front ++ b :: lineEnd)
  | more (front : List UInt8) (b : UInt8) (hfront : front = [] ∨ front = lineEnd)
      {symbols lines : List UInt8} (hlines : Broken lineEnd symbols lines) :
      Broken lineEnd (b :: symbols) (front ++ b :: lines)

/-- Lines of any width are such symbols. -/
theorem broken_wrapLines (h : symbols ≠ []) :
    Broken lineEnd symbols (wrapLines width lineEnd room symbols) := by
  fun_induction wrapLines width lineEnd room symbols with
  | case1 => exact absurd rfl h
  | case2 b => exact .last lineEnd b (Or.inr rfl)
  | case3 room b => exact .last [] b (Or.inl rfl)
  | case4 b rest hrest ih => exact .more lineEnd b (Or.inr rfl) (ih hrest)
  | case5 room b rest hrest ih => exact .more [] b (Or.inl rfl) (ih hrest)

example : wrapLines 4 (ascii "\n") 4 (ascii "QUJDREU=") = ascii "QUJD\nREU=\n" := by decide

theorem broken_encode (width : Nat) (lineEnd : List UInt8) (hdata : data ≠ []) :
    Broken lineEnd (Base64.encode data)
      (wrapLines width lineEnd width (Base64.encode data)) :=
  broken_wrapLines (Base64.encode_ne_nil hdata)

namespace Broken

variable {lines : List UInt8}

/-- There is nothing but symbols and line ends. -/
theorem mem (h : Broken lineEnd symbols lines) (hb : b ∈ lines) : b ∈ symbols ∨ b ∈ lineEnd := by
  have hput {front : List UInt8} (hfront : front = [] ∨ front = lineEnd) (hmem : b ∈ front) :
      b ∈ lineEnd := by
    obtain rfl | rfl := hfront
    · cases hmem
    · exact hmem
  induction h with
  | last front a hfront =>
    rcases List.mem_append.mp hb with hb | hb
    · exact Or.inr (hput hfront hb)
    · rcases List.mem_cons.mp hb with rfl | hb
      · exact Or.inl List.mem_cons_self
      · exact Or.inr hb
  | more front a hfront _ ih =>
    rcases List.mem_append.mp hb with hb | hb
    · exact Or.inr (hput hfront hb)
    · rcases List.mem_cons.mp hb with rfl | hb
      · exact Or.inl List.mem_cons_self
      · exact (ih hb).imp_left (List.mem_cons_of_mem a)

/-- Without the line ends the symbols are left. -/
theorem filter_eq {p : UInt8 → Bool} (h : Broken lineEnd symbols lines)
    (hsymbols : ∀ b ∈ symbols, p b = true) (hend : lineEnd.filter p = []) :
    lines.filter p = symbols := by
  have hput {front : List UInt8} (hfront : front = [] ∨ front = lineEnd) :
      front.filter p = [] := by
    obtain rfl | rfl := hfront
    · rfl
    · exact hend
  induction h with
  | last front a hfront =>
    have ha := hsymbols a List.mem_cons_self
    rw [List.filter_append, hput hfront, List.filter_cons_of_pos ha, hend]
    rfl
  | more front a hfront _ ih =>
    obtain ⟨ha, hrest⟩ := List.forall_mem_cons.mp hsymbols
    rw [List.filter_append, hput hfront, List.filter_cons_of_pos ha, ih hrest]
    rfl

/-- A line end stands at the end. -/
theorem exists_append (h : Broken lineEnd symbols lines) :
    ∃ init, lines = init ++ lineEnd := by
  induction h with
  | last front a => exact ⟨front ++ [a], by simp⟩
  | more front a _ _ ih =>
    obtain ⟨init, rfl⟩ := ih
    exact ⟨front ++ a :: init, by simp⟩

/-- What can follow a byte: behind a line feed comes neither a line feed nor a carriage return. -/
def Follows (a b : UInt8) : Prop := a = 0x0a → b ≠ 0x0a ∧ b ≠ 0x0d

/-- No two line ends stand side by side. -/
theorem isChain (h : Broken lineEnd symbols lines) (hsymbols : ∀ b ∈ symbols, IsDatum b)
    (hend : IsLineEnd lineEnd) : lines.IsChain Follows := by
  have hchain : lineEnd.IsChain Follows := by
    obtain rfl | rfl := hend <;> simp [Follows]
  have hcons {a : UInt8} {rest : List UInt8} (ha : IsDatum a) (hrest : rest.IsChain Follows) :
      (a :: rest).IsChain Follows :=
    List.isChain_cons.mpr ⟨fun _ _ hfeed => absurd hfeed ha.ne_feed, hrest⟩
  -- a symbol comes behind a line end that is put in
  have hput {front rest : List UInt8} {a : UInt8} (hfront : front = [] ∨ front = lineEnd)
      (ha : IsDatum a) (hrest : rest.IsChain Follows) :
      (front ++ a :: rest).IsChain Follows := by
    refine List.isChain_append.mpr ⟨?_, hcons ha hrest, ?_⟩
    · obtain rfl | rfl := hfront
      · exact List.isChain_nil
      · exact hchain
    · rintro x - y hy -
      obtain rfl : a = y := Option.some.inj hy
      exact ⟨ha.ne_feed, ha.ne_return⟩
  induction h with
  | last front a hfront => exact hput hfront (hsymbols a List.mem_cons_self) hchain
  | more front a hfront _ ih =>
    obtain ⟨ha, hrest⟩ := List.forall_mem_cons.mp hsymbols
    exact hput hfront ha (ih hrest)

end Broken

/-! ### The data of a block -/

/-- Where no two line ends stand side by side there are no headers. -/
theorem splitHeaders_of_isChain {body : List UInt8} (h : body.IsChain Broken.Follows) :
    splitHeaders body = ([], body) := by
  have hfeeds : ¬[0x0a, 0x0a] <:+: body := fun hinfix => by
    have hpair := h.infix hinfix
    simp [Broken.Follows] at hpair
  have hreturns : ¬[0x0d, 0x0a, 0x0d, 0x0a] <:+: body := fun hinfix => by
    have hfour := h.infix hinfix
    simp [Broken.Follows] at hfour
  rw [splitHeaders, cut?_eq_none_of_not_infix (List.cons_ne_nil _ _) hfeeds,
    cut?_eq_none_of_not_infix (List.cons_ne_nil _ _) hreturns]
  rfl

/-- The name of a block: some ASCII characters without a dash. -/
structure IsLabel (label : String) : Prop where
  ne_empty : label ≠ ""
  ascii : ∀ c ∈ label.toList, c.toNat < 0x80
  no_dash : 0x2d ∉ Pem.ascii label

/-- The bytes of a name are those of its text. -/
theorem IsLabel.ascii_eq (h : IsLabel label) : Pem.ascii label = Utf8.encode label := by
  have hchars : ∀ s : List Char, (∀ c ∈ s, c.toNat < 0x80) →
      s.map (fun c => UInt8.ofNat c.toNat) = s.flatMap Utf8.encodeChar := by
    intro s hs
    induction s with
    | nil => rfl
    | cons c s ih =>
      obtain ⟨hc, hrest⟩ := List.forall_mem_cons.mp hs
      rw [List.map_cons, List.flatMap_cons, ih hrest, Utf8.encodeChar, if_pos hc]
      rfl
  exact hchars label.toList h.ascii

theorem IsLabel.toNat_lt (h : IsLabel label) : ∀ b ∈ Pem.ascii label, b.toNat < 0x80 := by
  intro b hb
  obtain ⟨c, hc, rfl⟩ := List.mem_map.mp hb
  have hlow := h.ascii c hc
  rw [Utf8.toNat_ofNat (by omega)]
  exact hlow

theorem isLabel_of_all (hne : label ≠ "")
    (hall : label.toList.all (fun c => c.toNat < 0x80) = true) (hdash : 0x2d ∉ Pem.ascii label) :
    IsLabel label :=
  ⟨hne, fun c hc => of_decide_eq_true (List.all_eq_true.mp hall c hc), hdash⟩

theorem isLabel_certificate : IsLabel "CERTIFICATE" :=
  isLabel_of_all (by decide) (by decide) (by decide)

theorem isLabel_x509Certificate : IsLabel "X509 CERTIFICATE" :=
  isLabel_of_all (by decide) (by decide) (by decide)

section Body

variable {lines : List UInt8} (hlines : Broken lineEnd (Base64.encode data) lines)
  (hend : IsLineEnd lineEnd)

include hlines hend

/-- A byte of the lines is one of data, a line feed or a carriage return. -/
theorem Broken.cases_of_mem (hb : b ∈ lines) : IsDatum b ∨ b = 0x0a ∨ b = 0x0d := by
  rcases hlines.mem hb with hb | hb
  · exact Or.inl (isDatum_of_mem hb)
  · obtain rfl | rfl := hend
    · exact Or.inr (Or.inl (List.mem_singleton.mp hb))
    · rcases List.mem_cons.mp hb with rfl | hb
      · exact Or.inr (Or.inr rfl)
      · exact Or.inr (Or.inl (List.mem_singleton.mp hb))

theorem Broken.dash_notMem : 0x2d ∉ lines := fun hmem => by
  rcases hlines.cases_of_mem hend hmem with hdatum | hfeed | hreturn
  · exact hdatum.ne_dash rfl
  · exact absurd hfeed (by decide)
  · exact absurd hreturn (by decide)

theorem Broken.toNat_lt (hb : b ∈ lines) : b.toNat < 0x80 := by
  rcases hlines.cases_of_mem hend hb with hdatum | rfl | rfl
  · exact hdatum.ascii
  · decide
  · decide

/-- The characters of the lines that are not passed over are those of the symbols. -/
theorem Broken.filter_asciiChars :
    (Utf8.asciiChars (lines.dropWhile isSpace)).filter (!isFiller ·) =
      Utf8.asciiChars (Base64.encode data) := by
  let p : UInt8 → Bool := fun b => !isFiller (Char.ofNat b.toNat)
  have hsymbols : ∀ b ∈ Base64.encode data, p b = true := fun b hb => by
    show (!isFiller (Char.ofNat b.toNat)) = true
    rw [(isDatum_of_mem hb).not_filler]
    rfl
  have hfillers : lineEnd.filter p = [] := by
    obtain rfl | rfl := hend <;> decide
  have hspace : ∀ b, isSpace b = true → p b = false := by
    intro b hb
    simp only [isSpace, Bool.or_eq_true, decide_eq_true_eq] at hb
    obtain ((rfl | rfl) | rfl) | rfl := hb <;> decide
  have hfront : (lines.takeWhile isSpace).filter p = [] := by
    refine List.filter_eq_nil_iff.mpr fun b hb => ?_
    rw [hspace b (List.all_eq_true.mp List.all_takeWhile b hb)]
    exact Bool.false_ne_true
  have hdrop : (lines.dropWhile isSpace).filter p = lines.filter p := by
    have hsplit := congrArg (List.filter p) (@List.takeWhile_append_dropWhile _ isSpace lines)
    rwa [List.filter_append, hfront, List.nil_append] at hsplit
  rw [Utf8.asciiChars, List.filter_map]
  show ((lines.dropWhile isSpace).filter p).map _ = _
  rw [hdrop, hlines.filter_eq hsymbols hfillers]
  rfl

/-- **The data are read back** from the lines, as those of a block with their name. -/
theorem block?_broken (hlabel : IsLabel label) :
    RawBlock.block? ⟨ascii label, [], lines.dropWhile isSpace, ascii label⟩ =
      some ⟨label, data⟩ := by
  have hascii : ∀ b ∈ lines.dropWhile isSpace, b.toNat < 0x80 := fun b hb =>
    hlines.toNat_lt hend ((List.dropWhile_suffix isSpace).subset hb)
  have hsymbols : ∀ b ∈ Base64.encode data, b.toNat < 0x80 := fun b hb =>
    (isDatum_of_mem hb).ascii
  have hread : Utf8.decode? (ascii label) = some label := by
    rw [hlabel.ascii_eq, Utf8.decode?_encode]
  have htext : Utf8.decode? (lines.dropWhile isSpace) =
      some (String.ofList (Utf8.asciiChars (lines.dropWhile isSpace))) := by
    rw [← Utf8.decode?_encode (String.ofList _), Utf8.encode, String.toList_ofList,
      Utf8.flatMap_asciiChars hascii]
  have hnone : Utf8.decode? [] = some "" := rfl
  rw [RawBlock.block?, hread, hnone, htext]
  simp only [Option.bind_eq_bind, Option.bind_some, String.toList_ofList,
    hlines.filter_asciiChars hend, Utf8.flatMap_asciiChars hsymbols, Base64.decode?_encode]
  exact if_pos ⟨hlabel.ne_empty, trivial, rfl⟩

/-- The last byte of the lines is a line feed, also when some in front are passed over. -/
theorem Broken.eq_feed_of_getLast? (hb : (lines.dropWhile isSpace).getLast? = some b) :
    b = 0x0a := by
  obtain ⟨init, hinit⟩ := hlines.exists_append
  obtain ⟨front, hfront⟩ := List.dropWhile_suffix (l := lines) isSpace
  have hlast : lines.getLast? = some b := by
    rw [← hfront, List.getLast?_append, hb]
    rfl
  have hfeed : lines.getLast? = some 0x0a := by
    rw [hinit, List.getLast?_append, hend.getLast?]
    rfl
  exact Option.some.inj (hlast.symm.trans hfeed)

end Body

/-! ### The marks of a block -/

theorem mem_dashes (h : b ∈ dashes) : b = 0x2d :=
  List.eq_of_mem_replicate (show b ∈ List.replicate 5 0x2d from h)

/-- Bytes without a dash do not hold five of them. -/
theorem no_dashes_of_notMem {bytes : List UInt8} (h : 0x2d ∉ bytes) : ¬dashes <:+: bytes :=
  fun hpart => h (hpart.subset (by decide))

/-- Five dashes stand in the marks of both lines. -/
theorem dashes_infix_openMark : dashes <:+: openMark := ⟨[], ascii "BEGIN ", rfl⟩

theorem dashes_infix_closeMark : dashes <:+: closeMark := ⟨[], ascii "END ", rfl⟩

variable {before after : List UInt8}

/-- The opening line is found behind a text. -/
theorem cut?_openMark (hbefore : ¬dashes <:+: before)
    (hfeed : ∀ b, before.getLast? = some b → b = 0x0a) (rest : List UInt8) :
    cut? openMark (before ++ (openMark ++ rest)) = some (before, rest) := by
  refine cut?_append (by decide) (fun h => hbefore (dashes_infix_openMark.trans h)) ?_ rest
  intro b hb
  rw [hfeed b hb]
  decide

/-- The name ends at the dashes. -/
theorem cut?_label (hlabel : IsLabel label) (rest : List UInt8) :
    cut? dashes (ascii label ++ (dashes ++ rest)) = some (ascii label, rest) := by
  refine cut?_append (by decide) (no_dashes_of_notMem hlabel.no_dash) ?_ rest
  intro b hb hmem
  rw [mem_dashes hmem] at hb
  exact hlabel.no_dash (List.mem_of_getLast? hb)

/-- The data end at the closing line. -/
theorem cut?_closeMark {lines : List UInt8} (hlines : Broken lineEnd (Base64.encode data) lines)
    (hend : IsLineEnd lineEnd) (rest : List UInt8) :
    cut? closeMark (lines.dropWhile isSpace ++ (closeMark ++ rest)) =
      some (lines.dropWhile isSpace, rest) := by
  have hdash : 0x2d ∉ lines.dropWhile isSpace := fun hmem =>
    hlines.dash_notMem hend ((List.dropWhile_suffix isSpace).subset hmem)
  refine cut?_append (by decide)
    (fun h => no_dashes_of_notMem hdash (dashes_infix_closeMark.trans h)) ?_ rest
  intro b hb
  rw [hlines.eq_feed_of_getLast? hend hb]
  decide

/-- What stands between the opening line and the first symbol is passed over. -/
theorem dropWhile_isSpace (hend : IsLineEnd lineEnd) (lines rest : List UInt8) :
    (lineEnd ++ (lines ++ (closeMark ++ rest))).dropWhile isSpace =
      lines.dropWhile isSpace ++ (closeMark ++ rest) := by
  rw [List.dropWhile_append_of_pos hend.isSpace, List.dropWhile_append]
  split
  next hempty =>
    rw [List.isEmpty_iff.mp hempty]
    rfl
  next => rfl

/-! ### The block between texts -/

/-- A block with lines of a width, without its last line end. -/
def closed (label : String) (width : Nat) (lineEnd data : List UInt8) : List UInt8 :=
  openMark ++ ascii label ++ dashes ++ lineEnd
    ++ wrapLines width lineEnd width (Base64.encode data)
    ++ closeMark ++ ascii label ++ dashes

theorem armour_eq (label : String) (width : Nat) (lineEnd data : List UInt8) :
    armour label width lineEnd data = closed label width lineEnd data ++ lineEnd := rfl

/-- A block is ASCII text. -/
theorem toNat_lt_of_mem_closed (hlabel : IsLabel label) (hend : IsLineEnd lineEnd)
    (hdata : data ≠ []) (hb : b ∈ closed label width lineEnd data) : b.toNat < 0x80 := by
  have hlines := broken_encode width lineEnd hdata
  have hmarks : ∀ b ∈ openMark ++ dashes ++ closeMark, b.toNat < 0x80 :=
    Utf8.toNat_lt_of_all (by decide)
  have hname := hlabel.toNat_lt
  simp only [List.mem_append] at hmarks
  simp only [closed, List.mem_append] at hb
  rcases hb with ((((((hb | hb) | hb) | hb) | hb) | hb) | hb) | hb
  · exact hmarks b (Or.inl (Or.inl hb))
  · exact hname b hb
  · exact hmarks b (Or.inl (Or.inr hb))
  · exact hend.toNat_lt b hb
  · exact hlines.toNat_lt hend hb
  · exact hmarks b (Or.inr hb)
  · exact hname b hb
  · exact hmarks b (Or.inl (Or.inr hb))

/-- Text without five dashes has no block. -/
theorem readBlock?_eq_none (h : ¬dashes <:+: after) : readBlock? after = none := by
  have hopen : cut? openMark after = none :=
    cut?_eq_none_of_not_infix (by decide) fun hinfix => h (dashes_infix_openMark.trans hinfix)
  rw [readBlock?, hopen]
  rfl

/-- **The block behind a text** is read, and what stands behind it is left. -/
theorem readBlock?_closed (hlabel : IsLabel label) (hend : IsLineEnd lineEnd) (hdata : data ≠ [])
    (hbefore : ¬dashes <:+: before) (hfeed : ∀ b, before.getLast? = some b → b = 0x0a)
    (width : Nat) (after : List UInt8) :
    ∃ raw, readBlock? (before ++ (closed label width lineEnd data ++ after)) =
        some (raw, after.dropWhile isSpace) ∧
      raw.block? = some ⟨label, data⟩ := by
  have hlines := broken_encode width lineEnd hdata
  rw [closed]
  generalize wrapLines width lineEnd width (Base64.encode data) = lines at hlines
  have hheaders : splitHeaders (lines.dropWhile isSpace) = ([], lines.dropWhile isSpace) :=
    splitHeaders_of_isChain
      ((hlines.isChain (fun b hb => isDatum_of_mem hb) hend).suffix
        (List.dropWhile_suffix isSpace))
  refine ⟨⟨ascii label, [], lines.dropWhile isSpace, ascii label⟩, ?_,
    block?_broken hlines hend hlabel⟩
  simp only [List.append_assoc]
  rw [readBlock?, cut?_openMark hbefore hfeed]
  simp only [Option.bind_eq_bind, Option.bind_some, cut?_label hlabel, dropWhile_isSpace hend,
    cut?_closeMark hlines hend, hheaders]

/-- **The block between texts is the only one.** -/
theorem blocks?_closed (hlabel : IsLabel label) (hend : IsLineEnd lineEnd) (hdata : data ≠ [])
    (hbefore : ¬dashes <:+: before) (hfeed : ∀ b, before.getLast? = some b → b = 0x0a)
    (hafter : ¬dashes <:+: after) (width : Nat) :
    blocks? (before ++ (closed label width lineEnd data ++ after)) = some [⟨label, data⟩] := by
  obtain ⟨raw, hread, hblock⟩ := readBlock?_closed hlabel hend hdata hbefore hfeed width after
  have hrest : readBlock? (after.dropWhile isSpace) = none := readBlock?_eq_none fun h =>
    hafter (h.trans (List.dropWhile_suffix isSpace).isInfix)
  have hfrom (fuel : Nat) :
      rawBlocksFrom (fuel + 1) (before ++ (closed label width lineEnd data ++ after)) = [raw] := by
    rw [rawBlocksFrom, hread]
    show raw :: rawBlocksFrom fuel (after.dropWhile isSpace) = [raw]
    cases fuel with
    | zero => rfl
    | succ fuel => rw [rawBlocksFrom, hrest]
  have hraw : rawBlocks (before ++ (closed label width lineEnd data ++ after)) = [raw] := by
    rw [rawBlocks]
    cases hlength : (before ++ (closed label width lineEnd data ++ after)).length with
    | zero =>
      rw [List.length_eq_zero_iff.mp hlength] at hread
      cases hread
    | succ fuel => exact hfrom fuel
  rw [blocks?, hraw, List.mapM_cons, hblock]
  rfl

/-! ### What is read -/

/-- A block that is read stands there with its opening line, and the rest is an end of the bytes. -/
theorem infix_of_readBlock? {bytes rest : List UInt8} {raw : RawBlock}
    (h : readBlock? bytes = some (raw, rest)) :
    openMark ++ raw.openLabel ++ dashes <:+: bytes ∧ rest <:+ bytes := by
  rw [readBlock?] at h
  obtain ⟨⟨front, afterMark⟩, hmark, h⟩ := Option.bind_eq_some_iff.mp h
  obtain ⟨⟨openLabel, afterLabel⟩, hlabel, h⟩ := Option.bind_eq_some_iff.mp h
  obtain ⟨⟨body, afterBody⟩, hbody, h⟩ := Option.bind_eq_some_iff.mp h
  obtain ⟨⟨closeLabel, afterClose⟩, hclose, h⟩ := Option.bind_eq_some_iff.mp h
  obtain ⟨hraw, hrest⟩ := Prod.mk.inj (Option.some.inj h)
  have hopen := eq_append_of_cut? (by decide) hmark
  have hname := eq_append_of_cut? (by decide) hlabel
  have hdata := eq_append_of_cut? (by decide) hbody
  have hend := eq_append_of_cut? (by decide) hclose
  have hlabelEq : raw.openLabel = openLabel := by rw [← hraw]
  refine ⟨⟨front, afterLabel, ?_⟩, ?_⟩
  · rw [hlabelEq, hopen, hname]
    simp
  · have hbehindMark : afterMark <:+ bytes := ⟨front ++ openMark, by rw [hopen]; simp⟩
    have hbehindLabel : afterLabel <:+ afterMark := ⟨openLabel ++ dashes, by rw [hname]; simp⟩
    have hbehindData : afterBody <:+ afterLabel.dropWhile isSpace :=
      ⟨body ++ closeMark, by rw [hdata]; simp⟩
    have hbehind : afterClose <:+ afterBody := ⟨closeLabel ++ dashes, by rw [hend]; simp⟩
    rw [← hrest]
    exact (List.dropWhile_suffix isSpace).trans (hbehind.trans (hbehindData.trans
      ((List.dropWhile_suffix isSpace).trans (hbehindLabel.trans hbehindMark))))

theorem infix_of_mem_rawBlocksFrom {fuel : Nat} {bytes : List UInt8} {raw : RawBlock}
    (h : raw ∈ rawBlocksFrom fuel bytes) : openMark ++ raw.openLabel ++ dashes <:+: bytes := by
  induction fuel generalizing bytes with
  | zero => cases h
  | succ fuel ih =>
    rw [rawBlocksFrom] at h
    split at h
    next first rest hread =>
      obtain ⟨hfirst, hsuffix⟩ := infix_of_readBlock? hread
      rcases List.mem_cons.mp h with rfl | hmem
      · exact hfirst
      · exact (ih hmem).trans hsuffix.isInfix
    next => cases h

/-- What is given for a list comes from one of its members. -/
theorem exists_of_mapM {α β : Type} {f : α → Option β} {as : List α} {bs : List β}
    (h : as.mapM f = some bs) {b : β} (hb : b ∈ bs) : ∃ a ∈ as, f a = some b := by
  induction as generalizing bs with
  | nil =>
    obtain rfl : [] = bs := Option.some.inj h
    cases hb
  | cons a as ih =>
    rw [List.mapM_cons] at h
    obtain ⟨first, hfirst, h⟩ := Option.bind_eq_some_iff.mp h
    obtain ⟨others, hothers, h⟩ := Option.bind_eq_some_iff.mp h
    obtain rfl := Option.some.inj h
    rcases List.mem_cons.mp hb with rfl | hmem
    · exact ⟨a, List.mem_cons_self, hfirst⟩
    · obtain ⟨c, hc, hread⟩ := ih hothers hmem
      exact ⟨c, List.mem_cons_of_mem a hc, hread⟩

/-- The name of a block is read from its opening line. -/
theorem openLabel_eq {raw : RawBlock} {block : Block} (h : raw.block? = some block) :
    raw.openLabel = Utf8.encode block.label := by
  rw [RawBlock.block?] at h
  obtain ⟨label, hlabel, h⟩ := Option.bind_eq_some_iff.mp h
  obtain ⟨closing, -, h⟩ := Option.bind_eq_some_iff.mp h
  obtain ⟨headers, -, h⟩ := Option.bind_eq_some_iff.mp h
  obtain ⟨text, -, h⟩ := Option.bind_eq_some_iff.mp h
  obtain ⟨bytes, -, h⟩ := Option.bind_eq_some_iff.mp h
  obtain ⟨-, h⟩ := Option.ite_none_right_eq_some.mp h
  rw [← Option.some.inj h]
  exact (Utf8.encode_of_decode? hlabel).symm

/-- **What is read has its opening line in the bytes.** -/
theorem openingLine_infix {bytes : List UInt8} {blocks : List Block} {block : Block}
    (h : blocks? bytes = some blocks) (hmem : block ∈ blocks) :
    openMark ++ Utf8.encode block.label ++ dashes <:+: bytes := by
  obtain ⟨raw, hraw, hblock⟩ := exists_of_mapM h hmem
  rw [← openLabel_eq hblock]
  exact infix_of_mem_rawBlocksFrom hraw

end PeerName.Pem
