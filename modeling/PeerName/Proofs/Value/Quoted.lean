import PeerName.Proofs.Json.RoundTrip
import PeerName.Value.Display

/-!
# What is quoted can be seen

Quoted text has escapes for everything that does not show as itself, and numbers are written in
ASCII.  So whatever a value holds, its quoted form consists of printable characters: no line ends
in it, and nothing of it is hidden.

* `Text.Visible` — a text of printable characters;
* `Text.visible_quoteChars`, `Text.visible_quoteBytes` — texts and bytes between marks;
* `Binary64.printable_text` — the digits of a double;
* `Value.visible_quotedChars` — **the quoted form of a value**.
-/

namespace PeerName

/-! ### Texts and bytes -/

namespace Text

/-- A text of printable characters. -/
def Visible (s : List Char) : Prop := ∀ c ∈ s, Unicode.isPrintable c = true

instance (s : List Char) : Decidable (Visible s) :=
  List.decidableBAll (fun c => Unicode.isPrintable c = true) s

variable {s t : List Char} {c mark : Char}

theorem Visible.append (hs : Visible s) (ht : Visible t) : Visible (s ++ t) :=
  List.forall_mem_append.mpr ⟨hs, ht⟩

theorem Visible.cons (hc : Unicode.isPrintable c = true) (hs : Visible s) : Visible (c :: s) :=
  List.forall_mem_cons.mpr ⟨hc, hs⟩

/-- ASCII shows as itself. -/
theorem visible_of_printable (h : Json.Printable s) : Visible s := by
  intro c hc
  obtain ⟨hlow, hhigh⟩ := h c hc
  rw [Unicode.isPrintable, if_pos (by omega), Bool.and_eq_true]
  exact ⟨decide_eq_true hlow, decide_eq_true (by omega)⟩

theorem visible_escapeChar (hmark : Unicode.isPrintable mark = true) (c : Char) :
    Visible (escapeChar mark c) := by
  have hslash : Unicode.isPrintable '\\' = true := by decide
  have hhex (letter : Char) (hletter : Unicode.isPrintable letter = true) (width : Nat) :
      Visible ('\\' :: letter :: hexText width c.toNat) :=
    .cons hslash (.cons hletter (visible_of_printable (Json.printable_hexText _ _)))
  rw [escapeChar]
  split
  next h =>
    apply Visible.cons hslash
    rcases h with rfl | rfl
    · exact .cons hmark (List.forall_mem_nil _)
    · exact .cons hslash (List.forall_mem_nil _)
  split
  · decide
  split
  · decide
  split
  · decide
  split
  next h => exact .cons h (List.forall_mem_nil _)
  split
  · exact hhex 'x' (by decide) 2
  split
  · exact hhex 'u' (by decide) 4
  · exact hhex 'U' (by decide) 8

theorem isPrintable_quoteMark (s : List Char) : Unicode.isPrintable (quoteMark s) = true := by
  rw [quoteMark]
  split <;> decide

/-- **A text between marks can be seen.** -/
theorem visible_quoteChars (s : List Char) : Visible (quoteChars s) := by
  have hmark := isPrintable_quoteMark s
  apply Visible.cons hmark
  apply Visible.append _ (.cons hmark (List.forall_mem_nil _))
  intro c hc
  obtain ⟨d, -, hd⟩ := List.mem_flatMap.mp hc
  exact visible_escapeChar hmark d c hd

theorem visible_escapeByte (hmark : Unicode.isPrintable mark = true) (b : UInt8) :
    Visible (escapeByte mark b) := by
  rw [escapeByte]
  split
  · exact visible_escapeChar hmark _
  · exact .cons (by decide) (.cons (by decide) (visible_of_printable (Json.printable_hexText _ _)))

/-- **Bytes between marks can be seen.** -/
theorem visible_quoteBytes (bytes : List UInt8) : Visible (quoteBytes bytes) := by
  have hmark := isPrintable_quoteMark (bytes.map fun b => Char.ofNat b.toNat)
  apply Visible.cons (by decide)
  apply Visible.cons hmark
  apply Visible.append _ (.cons hmark (List.forall_mem_nil _))
  intro c hc
  obtain ⟨b, -, hb⟩ := List.mem_flatMap.mp hc
  exact visible_escapeByte hmark b c hb

end Text

/-! ### Numbers -/

open Json (Printable)

theorem printable_natText (n : Nat) : Printable (natText n) :=
  Json.printable_digitsOf (by omega) (by omega) n

theorem printable_intText (n : Int) : Printable (intText n) := by
  rw [intText]
  split
  · exact .cons (by decide) (printable_natText _)
  · exact printable_natText _

theorem printable_zeros (n : Nat) : Printable (List.replicate n '0') := by
  intro c hc
  rw [List.eq_of_mem_replicate hc]
  decide

theorem printable_positional {digits : List Char} (h : Printable digits) (point : Int)
    (places : Nat) :
    Printable (positional digits point places).1 ∧
      Printable (positional digits point places).2 := by
  have htake : Printable (digits.take point.toNat) := by
    intro c hc
    exact h c (List.mem_of_mem_take hc)
  have hdrop : Printable (digits.drop point.toNat) := by
    intro c hc
    exact h c (List.mem_of_mem_drop hc)
  rw [positional]
  by_cases hpoint : point ≤ 0
  · simp only [if_pos hpoint]
    exact ⟨printable_zeros 1, ((printable_zeros _).append h).append (printable_zeros _)⟩
  · simp only [if_neg hpoint]
    exact ⟨htake.append (printable_zeros _), hdrop.append (printable_zeros _)⟩

theorem printable_exponentText (e : Int) : Printable (exponentText e) := by
  rw [exponentText, zeroFill]
  apply Printable.cons _ ((printable_zeros _).append (printable_natText _))
  split <;> decide

theorem printable_scientific {digits : List Char} (h : Printable digits) (e : Int) :
    Printable (scientific digits e 'e') := by
  have hmark : Printable ('e' :: exponentText e) := .cons (by decide) (printable_exponentText e)
  rw [scientific.eq_def]
  split
  · exact Json.printable_nil
  next d =>
    obtain ⟨hd, -⟩ := List.forall_mem_cons.mp h
    exact .cons hd hmark
  next d rest _ =>
    obtain ⟨hd, hrest⟩ := List.forall_mem_cons.mp h
    exact .cons hd (.cons (by decide) (Printable.append hrest hmark))

theorem Decimal.printable_text (d : Decimal) : Printable d.text := by
  have hdigits := printable_natText d.digits
  rw [text]
  split
  · obtain ⟨hwhole, hrest⟩ :=
      printable_positional hdigits ((natText d.digits).length + d.exponent) 1
    exact hwhole.append (.cons (by decide) hrest)
  · exact printable_scientific hdigits _

/-- The digits of a double. -/
theorem Binary64.printable_text (x : Binary64) : Printable x.text := by
  have hsign : Printable (if x.isNegative then ['-'] else []) := by
    split <;> exact Json.printable_of_all (by decide)
  rw [text, textWith]
  split
  · exact Json.printable_of_all (by decide)
  · exact hsign.append (Json.printable_of_all (by decide))
  · exact hsign.append (Json.printable_of_all (by decide))
  · exact hsign.append (Decimal.printable_text _)

/-! ### Values -/

namespace Value

open Text (Visible)

mutual

/-- **The quoted form of a value can be seen**, whatever the value holds. -/
theorem visible_quotedChars (v : Value) : Visible v.quotedChars := by
  cases v with
  | null => decide
  | bool b => cases b <;> decide
  | int n => exact Text.visible_of_printable (printable_intText n)
  | real x => exact Text.visible_of_printable x.printable_text
  | text s => exact Text.visible_quoteChars s.toList
  | bytes b => exact Text.visible_quoteBytes b
  | list items =>
    rw [quotedChars]
    exact .cons (by decide) ((visible_quotedItems items).append (by decide))
  | record fields =>
    rw [quotedChars]
    exact .cons (by decide) ((visible_quotedFields fields).append (by decide))

theorem visible_quotedItems (items : List Value) : Visible (quotedItems items) := by
  match items with
  | [] => exact List.forall_mem_nil _
  | [v] => exact visible_quotedChars v
  | v :: w :: rest =>
    rw [quotedItems]
    · exact (visible_quotedChars v).append
        (.cons (by decide) (.cons (by decide) (visible_quotedItems (w :: rest))))
    · exact List.cons_ne_nil w rest

theorem visible_quotedFields (fields : List (String × Value)) : Visible (quotedFields fields) := by
  match fields with
  | [] => exact List.forall_mem_nil _
  | [(name, v)] =>
    exact (Text.visible_quoteChars name.toList).append
      (.cons (by decide) (.cons (by decide) (visible_quotedChars v)))
  | (name, v) :: f :: rest =>
    have hfield : Visible (Text.quoteChars name.toList ++ ':' :: ' ' :: quotedChars v) :=
      (Text.visible_quoteChars name.toList).append
        (.cons (by decide) (.cons (by decide) (visible_quotedChars v)))
    rw [quotedFields]
    · exact hfield.append
        (.cons (by decide) (.cons (by decide) (visible_quotedFields (f :: rest))))
    · exact List.cons_ne_nil f rest

end

theorem visible_kind (v : Value) : Visible v.kind.toList := by
  have hkinds : ∀ kind ∈ ["NoneType", "bool", "int", "float", "str", "bytes", "list", "dict"],
      Visible kind.toList := by
    decide +kernel
  apply hkinds
  cases v <;> simp [kind]

theorem visible_quoted (v : Value) : Visible v.quoted.toList := by
  rw [quoted, String.toList_ofList]
  exact visible_quotedChars v

end Value

end PeerName
