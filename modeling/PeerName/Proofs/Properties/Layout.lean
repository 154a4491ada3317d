import PeerName.Proofs.Properties.Distinct
import PeerName.Proofs.Text.Blocks
import PeerName.Properties.Reference

/-!
# The layout of a document

A document can be written in many ways: with empty lines and comments between its headers and its
options, as many as one likes.  They make no difference.  An empty line is added to the value of the
option before it, but what is empty at the end of a value does not count; a comment is passed over.
So a document is read from the lines of its headers and options, whatever stands between them.

* `Unicode.IsTrimmed` — a text without blanks at its ends;
* `isFiller` — empty lines and comments;
* `Draft.Reads`, `Draft.Reads.filler` — what has been read, which a filler leaves as it is;
* `Extends`, `Draft.Reads.statement` — what a header and an option bring;
* `Grows`, `grows_section` — a section, line by line;
* `Document.ofLines_of_grows` — **a document is read from its headers and options**;
* `expand_doubled` — **a value with doubled percent signs stands for the value itself**.
-/

namespace PeerName

/-! ### Trimming -/

namespace Unicode

variable {s t : List Char} {c : Char}

/-- A text that neither begins nor ends with a blank. -/
def IsTrimmed (s : List Char) : Prop :=
  (∀ c ∈ s.head?, isBlank c = false) ∧ ∀ c ∈ s.getLast?, isBlank c = false

theorem isTrimmed_iff (s : List Char) :
    s.head?.all (!isBlank ·) = true ∧ s.getLast?.all (!isBlank ·) = true ↔ IsTrimmed s := by
  simp only [IsTrimmed, Option.all_eq_true, Bool.not_eq_true', Option.mem_def]

instance (s : List Char) : Decidable (IsTrimmed s) := decidable_of_iff _ (isTrimmed_iff s)

theorem trimStart_eq_self (h : ∀ c ∈ s.head?, isBlank c = false) : trimStart s = s := by
  cases s with
  | nil => rfl
  | cons c s =>
    have hc : isBlank c = false := h c rfl
    rw [trimStart, List.dropWhile_cons, hc, if_neg Bool.false_ne_true]

/-- The end of a text is trimmed, and what is in front of it only if nothing is left of the end. -/
theorem trimEnd_append (s t : List Char) :
    trimEnd (s ++ t) = if trimEnd t = [] then trimEnd s else s ++ trimEnd t := by
  have hnil : trimEnd t = [] ↔ t.reverse.dropWhile isBlank = [] := List.reverse_eq_nil_iff
  rw [trimEnd, List.reverse_append, List.dropWhile_append]
  by_cases h : trimEnd t = []
  · rw [if_pos h, hnil.mp h, List.isEmpty_nil, if_pos rfl, trimEnd]
  · rw [if_neg h, if_neg (by simpa using hnil.not.mp h), List.reverse_append, List.reverse_reverse,
      trimEnd]

theorem trimEnd_eq_self (h : ∀ c ∈ s.getLast?, isBlank c = false) : trimEnd s = s := by
  rcases List.eq_nil_or_concat s with rfl | ⟨front, c, rfl⟩
  · rfl
  · have hc : isBlank c = false := h c (by simp)
    have hsingle : trimEnd [c] = [c] := by
      rw [trimEnd, List.reverse_singleton, List.dropWhile_cons, hc, if_neg Bool.false_ne_true]
      rfl
    rw [List.concat_eq_append, trimEnd_append, hsingle, if_neg (List.cons_ne_nil c [])]

theorem IsTrimmed.trim_eq (h : IsTrimmed s) : trim s = s := by
  rw [trim, trimStart_eq_self h.1, trimEnd_eq_self h.2]

theorem trimEnd_blank (h : isBlank c = true) : trimEnd [c] = [] := by
  rw [trimEnd, List.reverse_singleton, List.dropWhile_cons, h, if_pos rfl]
  rfl

/-- A blank behind a text is trimmed. -/
theorem trim_append_blank (s : List Char) (h : isBlank c = true) : trim (s ++ [c]) = trim s := by
  rw [trim, trim, trimStart, trimStart, List.dropWhile_append]
  by_cases hs : s.dropWhile isBlank = []
  · rw [hs, List.isEmpty_nil, if_pos rfl, List.dropWhile_cons, h, if_pos rfl, List.dropWhile_nil]
  · rw [if_neg (by simpa using hs), trimEnd_append, trimEnd_blank h, if_pos rfl]

/-- A text that begins with another character begins with it after trimming. -/
theorem trim_cons (hc : isBlank c = false) (s : List Char) : trim (c :: s) = c :: trimEnd s := by
  have hsingle : trimEnd [c] = [c] := trimEnd_eq_self (by simpa using hc)
  rw [trim, trimStart_eq_self (by simpa using hc), ← List.singleton_append, trimEnd_append]
  by_cases h : trimEnd s = []
  · rw [if_pos h, hsingle, h]
  · rw [if_neg h, List.singleton_append]

end Unicode

namespace Properties

open Unicode (isBlank trim trimEnd IsTrimmed)
open Text (IsLine ReadAs)

variable {d e : Draft} {number : Nat} {line read : List Char} {sections : List (String × Options)}
  {owner name : String}

/-! ### Lines between others -/

/-- Whether a line is empty or a comment. -/
def isFiller (line : List Char) : Bool := line.isEmpty || isComment line

theorem trim_readAs (h : ReadAs line read) : trim read = trim line := by
  rcases h with rfl | rfl
  · rfl
  · exact Unicode.trim_append_blank line (by decide)

/-- An empty line at the end of a value does not count. -/
theorem trimEnd_intercalate_nil (values : List (List Char)) :
    trimEnd (['\n'].intercalate (values ++ [[]])) = trimEnd (['\n'].intercalate values) := by
  rcases List.eq_nil_or_concat values with rfl | ⟨front, last, rfl⟩
  · rfl
  · rw [List.concat_eq_append, Text.intercalate_concat, Text.intercalate_concat,
      List.flatMap_append, List.flatMap_singleton, List.append_nil, ← List.append_assoc,
      Unicode.trimEnd_append _ ['\n'], Unicode.trimEnd_blank (by decide), if_pos rfl]

theorem closeOptions_extend (options : OpenOptions) (name : String) :
    closeOptions (options.map fun o => if o.1 = name then (o.1, o.2 ++ [[]]) else o) =
      closeOptions options := by
  rw [closeOptions, closeOptions, List.map_map]
  apply List.map_congr_left
  intro o _
  simp only [Function.comp_apply]
  split
  · rw [trimEnd_intercalate_nil]
  · rfl

/-- A change that shows in no option does not show in the document. -/
theorem Draft.document_update {change : OpenOptions → OpenOptions}
    (h : ∀ options, closeOptions (change options) = closeOptions options) (d : Draft) :
    (d.update change).document = d.document := by
  rw [Draft.update]
  split
  · rfl
  split
  · rw [Draft.document, Draft.document, h]
  · rw [Draft.document, Draft.document, List.map_map]
    congr 1
    apply List.map_congr_left
    intro s _
    simp only [Function.comp_apply]
    split
    · rw [h]
    · rfl

theorem Draft.update_current (change : OpenOptions → OpenOptions) (d : Draft) :
    (d.update change).current = d.current ∧ (d.update change).unreadable = d.unreadable := by
  rw [Draft.update]
  split
  · exact ⟨rfl, rfl⟩
  split
  · exact ⟨rfl, rfl⟩
  · exact ⟨rfl, rfl⟩

/-- Sections without defaults have been read, the last of which is open. -/
structure Draft.Reads (d : Draft) (sections : List (String × Options)) : Prop where
  document : d.document = ⟨[], sections⟩
  current : d.current = sections.getLast?.map Prod.fst
  readable : d.unreadable = []

theorem Draft.Reads.extend (h : d.Reads sections) : (d.extend []).Reads sections := by
  rw [Draft.extend]
  split
  · exact h
  next option _ =>
    have hsame := d.document_update fun options => closeOptions_extend options option
    obtain ⟨hcurrent, hunreadable⟩ := d.update_current fun options =>
      options.map fun o => if o.1 = option then (o.1, o.2 ++ [[]]) else o
    exact ⟨hsame.trans h.document, hcurrent.trans h.current, hunreadable.trans h.readable⟩

/-- **A filler makes no difference.** -/
theorem Draft.Reads.filler (h : d.Reads sections) (number : Nat) (hfiller : isFiller line = true)
    (hread : ReadAs line read) :
    ∃ e, d.readLine number read = .ok e ∧ e.Reads sections := by
  rw [Draft.readLine, trim_readAs hread]
  cases line with
  | nil => exact ⟨_, rfl, h.extend⟩
  | cons c rest =>
    have hc : c = '#' ∨ c = ';' := by
      simpa [isFiller, isComment] using hfiller
    have hcomment : isComment (trim (c :: rest)) = true := by
      rcases hc with rfl | rfl
      · rw [Unicode.trim_cons (by decide)]
        rfl
      · rw [Unicode.trim_cons (by decide)]
        rfl
    rw [hcomment, if_pos rfl]
    exact ⟨d, rfl, h⟩

/-! ### Headers and options -/

/-- The line that opens a section. -/
def headerLine (name : String) : List Char := '[' :: (name.toList ++ [']'])

/-- The line that gives an option. -/
def optionLine (name value : String) : List Char := name.toList ++ ' ' :: '=' :: ' ' :: value.toList

theorem isLine_headerLine (h : IsLine name.toList) : IsLine (headerLine name) := by
  simpa [headerLine, IsLine] using h

theorem isLine_optionLine {value : String} (hname : IsLine name.toList)
    (hvalue : IsLine value.toList) : IsLine (optionLine name value) := by
  constructor
  · simpa [optionLine] using ⟨hname.1, hvalue.1⟩
  · simpa [optionLine] using ⟨hname.2, hvalue.2⟩

/-- A name under which an option is read as it has been written. -/
structure IsName (name : String) : Prop where
  lower : Unicode.lower name = name
  trimmed : IsTrimmed name.toList
  plain : name.toList.all (!isDelimiter ·) = true
  start : ∃ c rest, name.toList = c :: rest ∧ c ≠ '[' ∧ c ≠ '#' ∧ c ≠ ';'

/-- A line is a header or an option if it begins with another character than a blank or one that
makes it a comment. -/
theorem Draft.readLine_statement (d : Draft) (number : Nat) {c : Char} {rest : List Char}
    (hline : line = c :: rest) (hc : isBlank c = false) (hcomment : c ≠ '#' ∧ c ≠ ';')
    (hread : ReadAs line read) :
    d.readLine number read =
      ({ d with indent := 0 } : Draft).readStatement number read (trim line) := by
  have htrim : trim read = c :: trimEnd rest := by
    rw [trim_readAs hread, hline, Unicode.trim_cons hc]
  have hindent : read.takeWhile isBlank = [] := by
    rcases hread with rfl | rfl
    · rw [hline, List.takeWhile_cons, hc, if_neg Bool.false_ne_true]
    · rw [hline, List.cons_append, List.takeWhile_cons, hc, if_neg Bool.false_ne_true]
  have hnot : isComment (c :: trimEnd rest) = false := by
    simpa [isComment] using hcomment
  rw [Draft.readLine, ← trim_readAs hread, htrim, hnot, if_neg Bool.false_ne_true,
    List.isEmpty_cons, if_neg Bool.false_ne_true, hindent, List.length_nil,
    if_neg fun h => Nat.not_lt_zero _ h.2]

theorem header?_headerLine (hname : name ≠ "") : header? (headerLine name) = some name.toList := by
  have hne : name.toList.isEmpty = false := by simpa using hname
  have hname : (((name.toList ++ [']']).reverse.dropWhile (· != ']')).drop 1).reverse =
      name.toList := by
    rw [List.reverse_append, List.reverse_singleton, List.singleton_append, List.dropWhile_cons,
      bne_self_eq_false, if_neg Bool.false_ne_true, List.drop_one, List.tail_cons,
      List.reverse_reverse]
  rw [headerLine, header?, hname, hne, if_neg Bool.false_ne_true]

theorem trim_headerLine (name : String) : trim (headerLine name) = headerLine name := by
  rw [headerLine, Unicode.trim_cons (by decide), Unicode.trimEnd_append, if_neg (by decide)]
  rfl

/-- What an option line is after trimming: nothing stands behind the delimiter but the value. -/
theorem exists_trim_optionLine (hname : IsName name) {value : String}
    (hvalue : IsTrimmed value.toList) :
    ∃ tail, trim (optionLine name value) = name.toList ++ ' ' :: '=' :: tail ∧
      trim tail = value.toList := by
  have hstart : Unicode.trimStart (optionLine name value) = optionLine name value := by
    obtain ⟨c, rest, hchars, -⟩ := hname.start
    refine Unicode.trimStart_eq_self fun b hb => hname.trimmed.1 b ?_
    rw [optionLine, hchars, List.cons_append, List.head?_cons] at hb
    rw [hchars, List.head?_cons]
    exact hb
  have hsplit : optionLine name value =
      (name.toList ++ [' ', '=']) ++ ([' '] ++ value.toList) := by
    simp [optionLine]
  rw [trim, hstart, hsplit, Unicode.trimEnd_append, Unicode.trimEnd_append [' '],
    Unicode.trimEnd_eq_self hvalue.2]
  by_cases hempty : value.toList = []
  · -- the blank behind the delimiter is at the end of the line
    refine ⟨[], ?_, hempty.symm⟩
    rw [if_pos hempty, Unicode.trimEnd_blank (by decide), if_pos rfl, Unicode.trimEnd_append,
      if_neg (by decide)]
    rfl
  · refine ⟨' ' :: value.toList, ?_, ?_⟩
    · rw [if_neg hempty, if_neg (by simp), List.append_assoc]
      rfl
    · have hskip : Unicode.trimStart (' ' :: value.toList) = value.toList := by
        rw [Unicode.trimStart, List.dropWhile_cons, if_pos (by decide)]
        exact Unicode.trimStart_eq_self hvalue.1
      rw [trim, hskip, Unicode.trimEnd_eq_self hvalue.2]

theorem option?_name (hname : IsName name) (tail : List Char) :
    option? (name.toList ++ ' ' :: '=' :: tail) = some (name.toList, trim tail) := by
  have hplain : ∀ c ∈ name.toList ++ [' '], (!isDelimiter c) = true := by
    intro c hc
    rw [List.mem_append, List.mem_singleton] at hc
    rcases hc with hc | rfl
    · exact List.all_eq_true.mp hname.plain c hc
    · rfl
  have hsplit : name.toList ++ ' ' :: '=' :: tail = (name.toList ++ [' ']) ++ '=' :: tail := by
    rw [List.append_assoc, List.singleton_append]
  rw [option?, hsplit, List.dropWhile_append_of_pos hplain, List.takeWhile_append_of_pos hplain,
    List.dropWhile_cons, if_neg (by decide), List.takeWhile_cons, if_neg (by decide),
    List.append_nil, Unicode.trimEnd_append, Unicode.trimEnd_blank (by decide), if_pos rfl,
    Unicode.trimEnd_eq_self hname.trimmed.2]

/-- A header enters its section. -/
theorem Draft.readLine_headerLine (d : Draft) (number : Nat) (hname : name ≠ "")
    (hread : ReadAs (headerLine name) read) :
    d.readLine number read = ({ d with indent := 0 } : Draft).enter number name := by
  have hline : headerLine name = '[' :: (name.toList ++ [']']) := rfl
  rw [d.readLine_statement number hline (by decide) (by decide) hread, trim_headerLine,
    Draft.readStatement, header?_headerLine hname]
  dsimp only
  rw [String.ofList_toList]

/-- An option is added to the open section. -/
theorem Draft.readLine_optionLine (number : Nat) {value : String} (hname : IsName name)
    (hvalue : IsTrimmed value.toList) (hcurrent : d.current = some owner)
    (hread : ReadAs (optionLine name value) read) :
    d.readLine number read =
      ({ d with indent := 0 } : Draft).addOption number owner name value.toList := by
  obtain ⟨c, rest, hchars, hbracket, hcomment⟩ := hname.start
  have hline : optionLine name value = c :: (rest ++ ' ' :: '=' :: ' ' :: value.toList) := by
    rw [optionLine, hchars, List.cons_append]
  have hc : isBlank c = false := hname.trimmed.1 c (by rw [hchars, List.head?_cons]; rfl)
  obtain ⟨tail, htrim, htail⟩ := exists_trim_optionLine hname hvalue
  have hheader : header? (name.toList ++ ' ' :: '=' :: tail) = none := by
    rw [hchars, List.cons_append, header?]
    intro _ hcons
    exact hbracket (List.cons.inj hcons).1
  have hempty : name.toList.isEmpty = false := by rw [hchars, List.isEmpty_cons]
  rw [d.readLine_statement number hline hc hcomment hread, htrim, Draft.readStatement, hheader]
  dsimp only
  rw [hcurrent]
  dsimp only
  rw [option?_name hname, htail]
  dsimp only
  rw [hempty, if_neg Bool.false_ne_true, String.ofList_toList, hname.lower]

/-! ### What headers and options bring -/

theorem Draft.Reads.defaults (h : d.Reads sections) : d.defaults = [] := by
  have hclosed : closeOptions d.defaults = [] := congrArg Document.defaults h.document
  exact List.map_eq_nil_iff.mp hclosed

theorem Draft.Reads.closed (h : d.Reads sections) :
    d.sections.map (fun s => (s.1, closeOptions s.2)) = sections :=
  congrArg Document.sections h.document

theorem names_map_closeOptions (sections : List (String × OpenOptions)) :
    names (sections.map fun s => (s.1, closeOptions s.2)) = names sections := by
  simp only [names, List.map_map, Function.comp_def]

/-- A header of a new section opens it. -/
theorem Draft.Reads.enter (h : d.Reads sections) (number : Nat) (hnew : name ∉ names sections)
    (hname : name ≠ defaultName) :
    ∃ e, d.enter number name = .ok e ∧ e.Reads (sections ++ [(name, [])]) := by
  have habsent : d.sections.any (·.1 = name) = false := by
    rw [Bool.eq_false_iff, Ne, any_name_iff, ← names_map_closeOptions, h.closed]
    exact hnew
  rw [Draft.enter, if_neg hname, habsent, if_neg Bool.false_ne_true]
  refine ⟨_, rfl, ?_, ?_, h.readable⟩
  · rw [Draft.document, List.map_append, h.closed, h.defaults]
    rfl
  · rw [List.getLast?_concat, Option.map_some]

/-- The section that is open is the last one, and there is no other of its name. -/
theorem Draft.Reads.last {front : List (String × Options)} {own : Options}
    (h : d.Reads (front ++ [(owner, own)])) (hopen : owner ∉ names front) :
    d.current = some owner ∧ ∃ before options, d.sections = before ++ [(owner, options)] ∧
      owner ∉ names before ∧ before.map (fun s => (s.1, closeOptions s.2)) = front ∧
      closeOptions options = own := by
  obtain ⟨before, last, hsections, hbefore, hlast⟩ := List.map_eq_append_iff.mp h.closed
  obtain ⟨⟨found, options⟩, rfl, hpair⟩ := List.map_eq_singleton_iff.mp hlast
  obtain ⟨rfl, hown⟩ := Prod.mk.inj hpair
  refine ⟨?_, before, options, hsections, ?_, hbefore, hown⟩
  · rw [h.current, List.getLast?_concat, Option.map_some]
  · rwa [← names_map_closeOptions, hbefore]

theorem Draft.openOptions_last {before : List (String × OpenOptions)} {options : OpenOptions}
    (hcurrent : d.current = some owner) (hsections : d.sections = before ++ [(owner, options)])
    (hother : owner ∉ names before) (howner : owner ≠ defaultName) : d.openOptions = options := by
  have hskip : before.lookup owner = none := lookup_eq_none_iff_notMem.mpr hother
  rw [Draft.openOptions, hcurrent]
  dsimp only
  rw [if_neg howner, hsections, List.lookup_append, hskip, Option.none_or, List.lookup_cons,
    beq_self_eq_true]
  rfl

theorem Draft.update_last {before : List (String × OpenOptions)} {options : OpenOptions}
    (hcurrent : d.current = some owner) (hsections : d.sections = before ++ [(owner, options)])
    (hother : owner ∉ names before) (howner : owner ≠ defaultName)
    (change : OpenOptions → OpenOptions) :
    d.update change = { d with sections := before ++ [(owner, change options)] } := by
  have hkeep : before.map (fun s => if s.1 = owner then (s.1, change s.2) else s) = before := by
    refine (List.map_congr_left fun s hs => ?_).trans (List.map_id' before)
    rw [if_neg]
    rintro rfl
    exact hother (mem_names_of_mem hs)
  rw [Draft.update, hcurrent]
  dsimp only
  rw [if_neg howner, hsections, List.map_append, hkeep, List.map_singleton, if_pos rfl]

/-- An option that is new in the open section comes to the end of it. -/
theorem Draft.Reads.addOption {front : List (String × Options)} {own : Options} {value : String}
    (h : d.Reads (front ++ [(owner, own)])) (number : Nat) (hopen : owner ∉ names front)
    (howner : owner ≠ defaultName) (hnew : name ∉ names own) (hvalue : IsTrimmed value.toList) :
    ∃ e, d.addOption number owner name value.toList = .ok e ∧
      e.Reads (front ++ [(owner, own ++ [(name, value)])]) := by
  obtain ⟨hcurrent, before, options, hsections, hother, hbefore, rfl⟩ := h.last hopen
  have habsent : d.openOptions.any (·.1 = name) = false := by
    rw [Bool.eq_false_iff, Ne, any_name_iff,
      Draft.openOptions_last hcurrent hsections hother howner, ← names_closeOptions]
    exact hnew
  have hclosed : closeOptions (options ++ [(name, [value.toList])]) =
      closeOptions options ++ [(name, value)] := by
    rw [closeOptions, closeOptions, List.map_append, List.map_singleton,
      List.intercalate_singleton, Unicode.trimEnd_eq_self hvalue.2, String.ofList_toList]
  rw [Draft.addOption, habsent, if_neg Bool.false_ne_true,
    Draft.update_last hcurrent hsections hother howner]
  refine ⟨_, rfl, ?_, ?_, h.readable⟩
  · rw [Draft.document, List.map_append, hbefore, h.defaults, List.map_singleton, hclosed]
    rfl
  · show d.current = _
    rw [hcurrent, List.getLast?_concat, Option.map_some]

/-- What a line of a header or of an option brings. -/
inductive Extends (sections : List (String × Options)) :
    List Char → List (String × Options) → Prop
  /-- A section is opened. -/
  | header {name : String} (hnew : name ∉ names sections) (hname : name ≠ defaultName)
      (hne : name ≠ "") : Extends sections (headerLine name) (sections ++ [(name, [])])
  /-- The last section gets an option. -/
  | option {front : List (String × Options)} {owner name value : String} {own : Options}
      (hsections : sections = front ++ [(owner, own)]) (hopen : owner ∉ names front)
      (howner : owner ≠ defaultName) (hname : IsName name) (hnew : name ∉ names own)
      (hvalue : IsTrimmed value.toList) :
      Extends sections (optionLine name value) (front ++ [(owner, own ++ [(name, value)])])

/-- **A header or an option is read.** -/
theorem Draft.Reads.statement {more : List (String × Options)} (h : d.Reads sections)
    (number : Nat) (hextends : Extends sections line more) (hread : ReadAs line read) :
    ∃ e, d.readLine number read = .ok e ∧ e.Reads more := by
  have hzero : ({ d with indent := 0 } : Draft).Reads sections :=
    ⟨h.document, h.current, h.readable⟩
  cases hextends with
  | @header name hnew hname hne =>
    rw [d.readLine_headerLine number hne hread]
    exact hzero.enter number hnew hname
  | @option front owner name value own hsections hopen howner hname hnew hvalue =>
    have hcurrent : d.current = some owner := by
      rw [h.current, hsections, List.getLast?_concat, Option.map_some]
    rw [Draft.readLine_optionLine number hname hvalue hcurrent hread]
    rw [hsections] at hzero
    exact hzero.addOption number hopen howner hnew hvalue

/-! ### Documents -/

/-- What lines of headers and options bring, one after another. -/
inductive Grows : List (String × Options) → List (List Char) → List (String × Options) → Prop
  | nil {sections : List (String × Options)} : Grows sections [] sections
  | cons {sections more final : List (String × Options)} {line : List Char}
      {rest : List (List Char)} (hextends : Extends sections line more)
      (hrest : Grows more rest final) : Grows sections (line :: rest) final

theorem Grows.append {more final : List (String × Options)} {front back : List (List Char)}
    (h : Grows sections front more) (hback : Grows more back final) :
    Grows sections (front ++ back) final := by
  induction h with
  | nil => exact hback
  | cons hextends _ ih => exact .cons hextends (ih hback)

/-- **Lines are read** as what their headers and options bring. -/
theorem Draft.Reads.readLines {final : List (String × Options)} {lines reads : List (List Char)}
    (h : d.Reads sections) (number : Nat)
    (hgrows : Grows sections (lines.filter (!isFiller ·)) final)
    (hreads : List.Forall₂ ReadAs lines reads) :
    ∃ e, d.readLines number reads = .ok e ∧ e.Reads final := by
  -- over all lines; what is to come is read off the lines that are kept
  induction hreads generalizing d sections number with
  | nil =>
    cases hgrows
    exact ⟨d, rfl, h⟩
  | @cons line read lines reads hread _ ih =>
    rw [Draft.readLines]
    cases hfiller : isFiller line with
    | true =>
      rw [List.filter_cons, hfiller, if_neg (by decide)] at hgrows
      obtain ⟨e, hline, he⟩ := h.filler number hfiller hread
      rw [hline]
      exact ih he _ hgrows
    | false =>
      rw [List.filter_cons, hfiller, if_pos (by decide)] at hgrows
      cases hgrows with
      | cons hextends hrest =>
        obtain ⟨e, hline, he⟩ := h.statement number hextends hread
        rw [hline]
        exact ih he _ hrest

/-- **A document is read from its headers and options**, whatever empty lines and comments are
between them. -/
theorem Document.ofLines_of_grows {lines : List (List Char)} (hlines : ∀ line ∈ lines, IsLine line)
    (h : Grows [] (lines.filter (!isFiller ·)) sections) :
    Document.ofLines (.ofBytes (Utf8.encode (String.ofList (['\n'].intercalate lines)))) =
      .ok ⟨[], sections⟩ := by
  obtain ⟨kept, reads, hkept, hreads, hbytes⟩ := Text.lines_ofBytes hlines
  have hgrows : Grows [] (kept.filter (!isFiller ·)) sections := by
    -- an empty last line is not read at all, but it is a filler anyway
    rcases hkept with rfl | rfl
    · exact h
    · rw [List.filter_append] at h
      rwa [← List.append_nil (kept.filter _)]
  have hempty : ({} : Draft).Reads [] := ⟨rfl, rfl, rfl⟩
  obtain ⟨d, hd, hreads⟩ := hempty.readLines 1 hgrows hreads
  rw [hbytes, Document.ofLines]
  dsimp only
  rw [hd]
  dsimp only
  rw [hreads.readable, List.isEmpty_nil, if_pos rfl, hreads.document]

/-- Options come to the end of the last section in order. -/
theorem grows_options {front : List (String × Options)} {more own : Options}
    (hopen : owner ∉ names front) (howner : owner ≠ defaultName)
    (hnodup : (names (own ++ more)).Nodup) (hnames : ∀ o ∈ more, IsName o.1)
    (hvalues : ∀ o ∈ more, IsTrimmed o.2.toList) :
    Grows (front ++ [(owner, own)]) (more.map fun o => optionLine o.1 o.2)
      (front ++ [(owner, own ++ more)]) := by
  induction more generalizing own with
  | nil =>
    rw [List.append_nil]
    exact .nil
  | cons o rest ih =>
    have hnew : o.1 ∉ names own := by
      rw [names, List.map_append, List.nodup_append] at hnodup
      exact fun hmem => hnodup.2.2 _ hmem _ List.mem_cons_self rfl
    have hcons : own ++ o :: rest = own ++ [o] ++ rest := List.append_cons own o rest
    rw [hcons] at hnodup ⊢
    refine .cons (.option rfl hopen howner (hnames o List.mem_cons_self) hnew
      (hvalues o List.mem_cons_self)) (ih hnodup ?_ ?_)
    · exact fun p hp => hnames p (List.mem_cons_of_mem o hp)
    · exact fun p hp => hvalues p (List.mem_cons_of_mem o hp)

/-- The lines of a section. -/
def sectionLines (owner : String) (own : Options) : List (List Char) :=
  headerLine owner :: own.map fun o => optionLine o.1 o.2

/-- **A section** comes to the end of a document with its options in order. -/
theorem grows_section {own : Options} (hnew : owner ∉ names sections)
    (howner : owner ≠ defaultName) (hne : owner ≠ "") (hnodup : (names own).Nodup)
    (hnames : ∀ o ∈ own, IsName o.1) (hvalues : ∀ o ∈ own, IsTrimmed o.2.toList) :
    Grows sections (sectionLines owner own) (sections ++ [(owner, own)]) :=
  .cons (.header hnew howner hne) (grows_options hnew howner hnodup hnames hvalues)

/-! ### Values -/

/-- A text with every percent sign doubled. -/
def doubled (s : List Char) : List Char := s.flatMap fun c => if c = '%' then ['%', '%'] else [c]

theorem doubled_cons (c : Char) (s : List Char) :
    doubled (c :: s) = (if c = '%' then ['%', '%'] else [c]) ++ doubled s :=
  List.flatMap_cons

theorem mem_of_mem_doubled {s : List Char} {c : Char} (h : c ∈ doubled s) : c ∈ s := by
  obtain ⟨d, hd, hcd⟩ := List.mem_flatMap.mp h
  split at hcd
  next hpercent =>
    rw [List.mem_cons, List.mem_singleton, or_self] at hcd
    rwa [hcd, ← hpercent]
  next => rwa [List.mem_singleton.mp hcd]

theorem mem_doubled {s : List Char} {c : Char} (h : c ∈ s) : c ∈ doubled s := by
  rw [doubled, List.mem_flatMap]
  refine ⟨c, h, ?_⟩
  split
  next hpercent =>
    rw [hpercent]
    exact List.mem_cons_self
  next => exact List.mem_singleton_self c

theorem head?_doubled (s : List Char) : (doubled s).head? = s.head? := by
  cases s with
  | nil => rfl
  | cons c s =>
    rw [doubled_cons]
    split
    next hc => rw [hc, List.cons_append, List.head?_cons, List.head?_cons]
    next => rw [List.cons_append, List.head?_cons, List.head?_cons]

theorem getLast?_doubled (s : List Char) : (doubled s).getLast? = s.getLast? := by
  rcases List.eq_nil_or_concat s with rfl | ⟨front, c, rfl⟩
  · rfl
  · rw [List.concat_eq_append, doubled, List.flatMap_append, List.flatMap_singleton,
      List.getLast?_concat]
    split
    next hc => rw [hc, List.append_cons, List.getLast?_concat]
    next => rw [List.getLast?_concat]

section Expand

variable (resolve : String → Except ReferenceFlaw (List Char))

theorem expandWith_percents (fuel : Nat) (rest : List Char) :
    expandWith resolve (fuel + 1) ('%' :: '%' :: rest) =
      (expandWith resolve fuel rest).map ('%' :: ·) := by
  rw [expandWith.eq_def]
  rfl

theorem expandWith_cons_of_ne (fuel : Nat) {c : Char} (hc : c ≠ '%') (rest : List Char) :
    expandWith resolve (fuel + 1) (c :: rest) = (expandWith resolve fuel rest).map (c :: ·) := by
  rw [expandWith.eq_def]
  exact if_pos hc

theorem expandWith_doubled {fuel : Nat} {s : List Char} (hfuel : (doubled s).length ≤ fuel) :
    expandWith resolve fuel (doubled s) = .ok s := by
  induction s generalizing fuel with
  | nil => cases fuel <;> rfl
  | cons c s ih =>
    obtain ⟨room, rfl, hroom⟩ : ∃ room, fuel = room + 1 ∧ (doubled s).length ≤ room := by
      have hpos : 0 < (if c = '%' then ['%', '%'] else [c]).length := by
        split <;> exact Nat.succ_pos _
      rw [doubled_cons, List.length_append] at hfuel
      exact ⟨fuel - 1, by omega, by omega⟩
    rw [doubled_cons]
    by_cases hc : c = '%'
    · rw [if_pos hc, List.cons_append, List.singleton_append, expandWith_percents, ih hroom, hc]
      rfl
    · rw [if_neg hc, List.singleton_append, expandWith_cons_of_ne resolve room hc, ih hroom]
      rfl

end Expand

/-- **A value with doubled percent signs stands for the value itself.** -/
theorem expand_doubled (options : Options) (depth : Nat) (s : List Char) :
    expand options (depth + 1) (doubled s) = .ok s := by
  rw [expand]
  exact expandWith_doubled _ (Nat.le_refl _)

/-- A value without percent signs is its own doubled form. -/
theorem doubled_eq_self {s : List Char} (h : '%' ∉ s) : doubled s = s := by
  induction s with
  | nil => rfl
  | cons c s ih =>
    obtain ⟨hc, hs⟩ := List.ne_and_not_mem_of_not_mem_cons h
    rw [doubled_cons, if_neg hc.symm, ih hs, List.singleton_append]

end Properties

end PeerName
