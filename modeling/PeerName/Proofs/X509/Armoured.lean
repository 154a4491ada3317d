import PeerName.Proofs.Pem.Armour
import PeerName.Proofs.X509.Detection

/-!
# Armoured certificates

A certificate can be put into a block of text, and the block between lines of text; what is read
from the text is the certificate.  The form of bytes is found out by the opening line of a block
with the name `CERTIFICATE`.  The other name, `X509 CERTIFICATE`, is read when the armoured form is
asked for, and is not looked for when the form has to be found out.

* `infix_of_infix_append_append` — what has no separator in it occurs on one side of separators;
* `ofPem_closed` — the certificate in a block between bytes;
* `armouredText`, `pemValue_armouredText` — **wrapping a certificate changes nothing**;
* `load_agrees_with_pem_iff` — **when the armoured form is found out**;
* `armour_not_loaded` — **the other name is never found out**;
* `x509_label_not_loaded` — an armoured certificate that is read and cannot be loaded.
-/

namespace PeerName

/-! ### Lines around a block -/

section Lines

variable {α : Type} {part mid back : List α} {sep : α}

theorem prefix_of_prefix_append_cons (front : List α) (hsep : sep ∉ part)
    (h : part <+: front ++ sep :: back) : part <+: front := by
  rcases List.prefix_or_prefix_of_prefix h (List.prefix_append front (sep :: back)) with
    hshort | ⟨more, rfl⟩
  · exact hshort
  · cases more with
    | nil => simp
    | cons a more =>
      have hmore : a :: more <+: sep :: back := (List.prefix_append_right_inj front).mp h
      obtain ⟨rfl, -⟩ := List.cons_prefix_cons.mp hmore
      exact absurd (List.mem_append_right front List.mem_cons_self) hsep

/-- What has no separator in it occurs in front of a separator or behind it. -/
theorem infix_of_infix_append_cons (front : List α) (hsep : sep ∉ part)
    (h : part <:+: front ++ sep :: back) : part <:+: front ∨ part <:+: back := by
  induction front with
  | nil =>
    rcases List.infix_cons_iff.mp h with hhead | hback
    · exact Or.inl (prefix_of_prefix_append_cons [] hsep hhead).isInfix
    · exact Or.inr hback
  | cons a front ih =>
    rcases List.infix_cons_iff.mp h with hhead | hrest
    · exact Or.inl (prefix_of_prefix_append_cons (a :: front) hsep hhead).isInfix
    · exact (ih hrest).imp_left fun hfront => hfront.trans (List.suffix_cons a front).isInfix

/-- What has nothing in common with some separators occurs in front of them or behind them. -/
theorem infix_of_infix_append_append (front : List α) (hne : mid ≠ []) (hmid : ∀ a ∈ mid, a ∉ part)
    (h : part <:+: front ++ (mid ++ back)) : part <:+: front ∨ part <:+: back := by
  induction mid generalizing front with
  | nil => exact absurd rfl hne
  | cons sep mid ih =>
    obtain ⟨hsep, hrest⟩ := List.forall_mem_cons.mp hmid
    rcases infix_of_infix_append_cons front hsep h with hfront | hbehind
    · exact Or.inl hfront
    · cases mid with
      | nil => exact Or.inr hbehind
      | cons a mid =>
        rcases ih [] (List.cons_ne_nil a mid) hrest hbehind with hnil | hback
        · rw [List.infix_nil.mp hnil]
          exact Or.inl List.nil_infix
        · exact Or.inr hback

end Lines

/-- Lines of text, each closed by a line end. -/
def linesText (lineEnd : String) (lines : List String) : String :=
  String.join (lines.map (· ++ lineEnd))

/-- The five dashes in front of and behind a mark, as characters. -/
def fiveDashes : List Char := "-----".toList

variable {lineEnd : String}

/-- Five dashes occur in front of a line end or behind it. -/
theorem dashes_in_append_lineEnd (hend : lineEnd = "\n" ∨ lineEnd = "\r\n") (front : List Char)
    {back : List Char} (h : fiveDashes <:+: front ++ (lineEnd.toList ++ back)) :
    fiveDashes <:+: front ∨ fiveDashes <:+: back := by
  refine infix_of_infix_append_append front ?_ ?_ h
  · obtain rfl | rfl := hend <;> decide
  · obtain rfl | rfl := hend <;> simp [fiveDashes]

/-- No five dashes in the lines, and none in the text of the lines. -/
theorem no_dashes_in_linesText (hend : lineEnd = "\n" ∨ lineEnd = "\r\n") {lines : List String}
    (hlines : ∀ line ∈ lines, ¬fiveDashes <:+: line.toList) :
    ¬fiveDashes <:+: (linesText lineEnd lines).toList := by
  have hnil : ¬fiveDashes <:+: [] := by decide
  rw [linesText, String.toList_join]
  induction lines with
  | nil => exact hnil
  | cons line lines ih =>
    obtain ⟨hline, hrest⟩ := List.forall_mem_cons.mp hlines
    rw [List.map_cons, List.flatMap_cons, String.toList_append, List.append_assoc]
    intro hdashes
    rcases dashes_in_append_lineEnd hend line.toList hdashes with hfront | hback
    · exact hline hfront
    · exact ih hrest hback

/-- The text of the lines is empty, or a line end stands at its end. -/
theorem linesText_cases (lineEnd : String) (lines : List String) :
    linesText lineEnd lines = "" ∨ ∃ front, linesText lineEnd lines = front ++ lineEnd := by
  rcases List.eq_nil_or_concat lines with rfl | ⟨init, line, rfl⟩
  · exact Or.inl rfl
  · refine Or.inr ⟨linesText lineEnd init ++ line, ?_⟩
    apply String.toList_injective
    simp [linesText, String.toList_join]

theorem linesText_ends (hend : lineEnd = "\n" ∨ lineEnd = "\r\n") (lines : List String) :
    (linesText lineEnd lines).toList = [] ∨
      ∃ init, (linesText lineEnd lines).toList = init ++ ['\n'] := by
  rcases linesText_cases lineEnd lines with hempty | ⟨front, hfront⟩
  · exact Or.inl (by rw [hempty]; rfl)
  · rw [hfront, String.toList_append]
    obtain rfl | rfl := hend
    · exact Or.inr ⟨front.toList, rfl⟩
    · exact Or.inr ⟨front.toList ++ ['\r'], by simp⟩

namespace X509

/-! ### The certificate in a block -/

variable {der : List UInt8} {cert : Certificate}

theorem ne_nil_of_decode (hdecode : Certificate.decode der = .ok cert) : der ≠ [] := by
  obtain ⟨rest, rfl⟩ := exists_cons_of_decode hdecode
  exact List.cons_ne_nil _ _

/-- A block between bytes without five dashes gives the certificate that was put into it. -/
theorem ofPem_closed (hdecode : Certificate.decode der = .ok cert) {label : String}
    (hlabel : Pem.IsLabel label) (hname : certificateLabels.contains label = true)
    {lineEnd before after : List UInt8} (hend : Pem.IsLineEnd lineEnd)
    (hbefore : ¬Pem.dashes <:+: before) (hfeed : ∀ b, before.getLast? = some b → b = 0x0a)
    (hafter : ¬Pem.dashes <:+: after) (width : Nat) :
    Certificate.ofPem (before ++ (Pem.closed label width lineEnd der ++ after)) = .ok cert := by
  rw [Certificate.ofPem,
    Pem.blocks?_closed hlabel hend (ne_nil_of_decode hdecode) hbefore hfeed hafter]
  simp only [Option.bind_some, List.find?_cons, hname]
  exact hdecode

theorem mapError_unreadable_eq_ok_iff {result : Except Fault Certificate} :
    result.mapError PeerName.Fault.unreadable = .ok cert ↔ result = .ok cert := by
  cases result with
  | error cause => simp [Except.mapError]
  | ok found => simp [Except.mapError]

/-- A block between characters without five dashes gives the certificate that was put into it. -/
theorem ofPem_chars (hdecode : Certificate.decode der = .ok cert) {lineEnd : List UInt8}
    (hend : Pem.IsLineEnd lineEnd) {front back : List Char} (hfront : ¬fiveDashes <:+: front)
    (hlast : front = [] ∨ ∃ init, front = init ++ ['\n']) (hback : ¬fiveDashes <:+: back)
    (width : Nat) :
    Certificate.ofPem (Utf8.encode (String.ofList
      (front ++ (Utf8.asciiChars (Pem.closed "CERTIFICATE" width lineEnd der) ++ back)))) =
        .ok cert := by
  have hdashes {chars : List Char} (h : ¬fiveDashes <:+: chars) :
      ¬Pem.dashes <:+: chars.flatMap Utf8.encodeChar := fun hbytes =>
    h (Utf8.infix_of_infix_flatMap (Utf8.toNat_lt_of_all (by decide)) hbytes)
  have hfeed : ∀ b, (front.flatMap Utf8.encodeChar).getLast? = some b → b = 0x0a := by
    intro b hb
    obtain rfl | ⟨init, rfl⟩ := hlast
    · cases hb
    · rw [List.flatMap_append, List.getLast?_append] at hb
      exact (Option.some.inj hb).symm
  have hascii : ∀ b ∈ Pem.closed "CERTIFICATE" width lineEnd der, b.toNat < 0x80 := fun b =>
    Pem.toNat_lt_of_mem_closed Pem.isLabel_certificate hend (ne_nil_of_decode hdecode)
  rw [Utf8.encode, String.toList_ofList, List.flatMap_append, List.flatMap_append,
    Utf8.flatMap_asciiChars hascii]
  exact ofPem_closed hdecode Pem.isLabel_certificate rfl hend (hdashes hfront) hfeed
    (hdashes hback) width

/-- The text of a certificate: its block, with lines of a width, between other lines. -/
def armouredText (width : Nat) (lineEnd : String) (before after : List String)
    (der : List UInt8) : String :=
  linesText lineEnd before
    ++ String.ofList (Utf8.asciiChars
        (Pem.armour "CERTIFICATE" width (Pem.ascii lineEnd) der))
    ++ linesText lineEnd after

/-- The text in three parts, of which the second is the block without its last line end. -/
theorem toList_armouredText (hend : lineEnd = "\n" ∨ lineEnd = "\r\n") (width : Nat)
    (before after : List String) (der : List UInt8) :
    (armouredText width lineEnd before after der).toList =
      (linesText lineEnd before).toList ++
        (Utf8.asciiChars (Pem.closed "CERTIFICATE" width (Pem.ascii lineEnd) der) ++
          (lineEnd.toList ++ (linesText lineEnd after).toList)) := by
  have hchars : Utf8.asciiChars (Pem.ascii lineEnd) = lineEnd.toList := by
    obtain rfl | rfl := hend <;> decide
  rw [armouredText, Pem.armour_eq, Utf8.asciiChars, List.map_append, ← Utf8.asciiChars,
    ← Utf8.asciiChars, hchars]
  simp

/-- The text has the same parts when its last line end is missing; only the third is shorter. -/
theorem exists_parts (hend : lineEnd = "\n" ∨ lineEnd = "\r\n") {width : Nat}
    {before after : List String} {der : List UInt8} {text : String}
    (htext : text = armouredText width lineEnd before after der ∨
      text ++ lineEnd = armouredText width lineEnd before after der) :
    ∃ back, back <+: lineEnd.toList ++ (linesText lineEnd after).toList ∧
      text.toList = (linesText lineEnd before).toList ++
        (Utf8.asciiChars (Pem.closed "CERTIFICATE" width (Pem.ascii lineEnd) der) ++ back) := by
  rcases htext with rfl | htext
  · exact ⟨_, List.prefix_rfl, toList_armouredText hend width before after der⟩
  · have hcut := congrArg String.toList htext
    rw [String.toList_append, toList_armouredText hend] at hcut
    rcases linesText_cases lineEnd after with hempty | ⟨front, hlast⟩
    · refine ⟨[], List.nil_prefix, List.append_cancel_right (hcut.trans ?_)⟩
      rw [hempty]
      simp
    · refine ⟨lineEnd.toList ++ front.toList, ?_, List.append_cancel_right (hcut.trans ?_)⟩
      · rw [hlast, String.toList_append, ← List.append_assoc]
        exact List.prefix_append _ _
      · rw [hlast]
        simp

theorem isLineEnd_ascii (hend : lineEnd = "\n" ∨ lineEnd = "\r\n") :
    Pem.IsLineEnd (Pem.ascii lineEnd) := by
  obtain rfl | rfl := hend
  · exact Or.inl rfl
  · exact Or.inr rfl

/-- **Wrapping a certificate changes nothing.**  A certificate is written as a block, whatever the
width of its lines, with line feeds or with carriage returns in front of them; before it and behind
it stand lines without five dashes, and the last line end of the text can be missing.  What is read
from this text, and from its bytes, is the certificate itself. -/
theorem pemValue_armouredText (der : List UInt8) (cert : Certificate)
    (hdecode : derValue (.bytes der) = .ok cert) (width : Nat) (lineEnd : String)
    (hend : lineEnd = "\n" ∨ lineEnd = "\r\n") (before after : List String)
    (hlines : ∀ line ∈ before ++ after, ¬"-----".toList <:+: line.toList) (text : String)
    (htext : text = armouredText width lineEnd before after der ∨
      text ++ lineEnd = armouredText width lineEnd before after der) :
    pemValue (.text text) = .ok cert ∧ pemValue (.bytes (Utf8.encode text)) = .ok cert := by
  have hfront : ¬fiveDashes <:+: (linesText lineEnd before).toList :=
    no_dashes_in_linesText hend fun line hmem => hlines line (List.mem_append_left after hmem)
  have hbehind : ¬fiveDashes <:+: (linesText lineEnd after).toList :=
    no_dashes_in_linesText hend fun line hmem => hlines line (List.mem_append_right before hmem)
  obtain ⟨back, hprefix, htoList⟩ := exists_parts hend htext
  have hback : ¬fiveDashes <:+: back := by
    intro hdashes
    rcases dashes_in_append_lineEnd hend [] (hdashes.trans hprefix.isInfix) with hnil | hafter
    · exact absurd hnil (by decide)
    · exact hbehind hafter
  have hread : Certificate.ofPem (Utf8.encode text) = .ok cert := by
    rw [← @String.ofList_toList text, htoList]
    exact ofPem_chars (mapError_unreadable_eq_ok_iff.mp hdecode) (isLineEnd_ascii hend) hfront
      (linesText_ends hend before) hback width
  exact ⟨mapError_unreadable_eq_ok_iff.mpr hread, mapError_unreadable_eq_ok_iff.mpr hread⟩

/-- A certificate for one DNS name, between two lines of a text, with carriage returns. -/
theorem pemValue_armouredText_foo_test :
    ∃ der cert, sampleFrame.encode? ["foo.test"] none [] = some der ∧
      derValue (.bytes der) = .ok cert ∧
      let text := armouredText 64 "\r\n" ["Subject: foo.test"] ["-- "] der
      pemValue (.text text) = .ok cert ∧ pemValue (.bytes (Utf8.encode text)) = .ok cert := by
  obtain ⟨der, cert, hder, hread⟩ := exists_sampleFrame
  have hdecode : derValue (.bytes der) = .ok cert := mapError_unreadable_eq_ok_iff.mpr hread
  exact ⟨der, cert, hder, hdecode, pemValue_armouredText der cert hdecode 64 "\r\n" (Or.inr rfl)
    ["Subject: foo.test"] ["-- "] (by decide) _ (Or.inl rfl)⟩

/-! ### Finding out the armoured form -/

variable {bytes : List UInt8}

/-- The first block that holds a certificate. -/
def firstCertificate? (bytes : List UInt8) : Option Pem.Block :=
  (Pem.blocks? bytes).bind fun blocks =>
    blocks.find? fun block => certificateLabels.contains block.label

/-- The armoured form is that of the first block that holds a certificate. -/
theorem ofPem_eq_ok_iff :
    Certificate.ofPem bytes = .ok cert ↔
      ∃ block, firstCertificate? bytes = some block ∧ Certificate.decode block.data = .ok cert := by
  rw [Certificate.ofPem, ← firstCertificate?]
  cases firstCertificate? bytes with
  | none => simp
  | some block => simp

/-- The first block that holds a certificate has one of the two names. -/
theorem label_cases {block : Pem.Block} (h : firstCertificate? bytes = some block) :
    block.label = "CERTIFICATE" ∨ block.label = "X509 CERTIFICATE" := by
  obtain ⟨blocks, -, hfind⟩ := Option.bind_eq_some_iff.mp h
  simpa [certificateLabels] using List.find?_some hfind

/-- A block with the name `CERTIFICATE` has the line that is looked for. -/
theorem pemMarker_of_label {block : Pem.Block} (h : firstCertificate? bytes = some block)
    (hlabel : block.label = "CERTIFICATE") : pemMarker <:+: bytes := by
  obtain ⟨blocks, hblocks, hfind⟩ := Option.bind_eq_some_iff.mp h
  have hline := Pem.openingLine_infix hblocks (List.mem_of_find?_eq_some hfind)
  rw [hlabel] at hline
  exact hline

/-- **When the armoured form is found out.**  Bytes are read as an armoured certificate and not as
an encoded one.  They can be loaded, with the same certificate, exactly if the opening line of a
block with the name `CERTIFICATE` stands in them; this is so if the certificate is in such a block.
Otherwise it is in a block with the name `X509 CERTIFICATE`, and loading fails as for bytes that
hold no certificate. -/
theorem load_agrees_with_pem_iff (bytes : List UInt8) (cert : Certificate) (fault : PeerName.Fault)
    (hpem : pemValue (.bytes bytes) = .ok cert) (hder : derValue (.bytes bytes) = .error fault) :
    ∃ block, firstCertificate? bytes = some block ∧ Certificate.decode block.data = .ok cert ∧
      (loadValue (.bytes bytes) = .ok cert ↔ pemMarker <:+: bytes) ∧
      (block.label = "CERTIFICATE" → pemMarker <:+: bytes) ∧
      (¬pemMarker <:+: bytes →
        block.label = "X509 CERTIFICATE" ∧ loadValue (.bytes bytes) = .error fault) := by
  obtain ⟨block, hfirst, hdecode⟩ := ofPem_eq_ok_iff.mp (mapError_unreadable_eq_ok_iff.mp hpem)
  have hclear (h : ¬pemMarker <:+: bytes) : loadValue (.bytes bytes) = .error fault := by
    rw [loadValue, load_of_not_occurs h]
    exact hder
  refine ⟨block, hfirst, hdecode, ⟨fun hload => ?_, fun hoccurs => ?_⟩, pemMarker_of_label hfirst,
    fun h => ⟨?_, hclear h⟩⟩
  · by_contra h
    rw [hclear h] at hload
    cases hload
  · rw [loadValue, load_of_occurs hoccurs]
    exact hpem
  · exact (label_cases hfirst).resolve_left fun hlabel => h (pemMarker_of_label hfirst hlabel)

/-- A block alone is read as an armoured certificate, with either of the names. -/
theorem pemValue_armour (hdecode : Certificate.decode der = .ok cert) {label : String}
    (hlabel : Pem.IsLabel label) (hname : certificateLabels.contains label = true)
    {lineEnd : List UInt8} (hend : Pem.IsLineEnd lineEnd) (width : Nat) :
    pemValue (.bytes (Pem.armour label width lineEnd der)) = .ok cert := by
  have hafter : ¬Pem.dashes <:+: lineEnd := by
    obtain rfl | rfl := hend <;> decide
  have hread := ofPem_closed hdecode hlabel hname hend (by decide : ¬Pem.dashes <:+: [])
    (fun b hb => nomatch hb) hafter width
  exact mapError_unreadable_eq_ok_iff.mpr hread

/-- A block is not the encoded form of a certificate. -/
theorem exists_derValue_armour (label : String) (width : Nat) (lineEnd data : List UInt8) :
    ∃ fault, derValue (.bytes (Pem.armour label width lineEnd data)) = .error fault := by
  cases h : derValue (.bytes (Pem.armour label width lineEnd data)) with
  | error fault => exact ⟨fault, rfl⟩
  | ok cert =>
    obtain ⟨rest, hfirst⟩ := exists_cons_of_decode (mapError_unreadable_eq_ok_iff.mp h)
    have hdash : Pem.armour label width lineEnd data =
        0x2d :: (Pem.armour label width lineEnd data).tail := rfl
    rw [hdash] at hfirst
    exact absurd (List.cons_eq_cons.mp hfirst).1 (by decide)

/-- A block with the name that is looked for. -/
theorem load_agrees_with_pem_foo_test :
    ∃ der cert, sampleFrame.encode? ["foo.test"] none [] = some der ∧
      pemValue (.bytes (Pem.armour "CERTIFICATE" 64 [0x0a] der)) = .ok cert ∧
      (∃ fault, derValue (.bytes (Pem.armour "CERTIFICATE" 64 [0x0a] der)) = .error fault) ∧
      loadValue (.bytes (Pem.armour "CERTIFICATE" 64 [0x0a] der)) = .ok cert := by
  obtain ⟨der, cert, hder, hdecode⟩ := exists_sampleFrame
  have hpem := pemValue_armour hdecode Pem.isLabel_certificate rfl (Or.inl rfl) 64
  obtain ⟨fault, hfault⟩ := exists_derValue_armour "CERTIFICATE" 64 [0x0a] der
  obtain ⟨block, -, -, hload, -⟩ := load_agrees_with_pem_iff _ _ fault hpem hfault
  have hmarker : pemMarker <:+: Pem.armour "CERTIFICATE" 64 [0x0a] der :=
    List.IsPrefix.isInfix ⟨_, rfl⟩
  exact ⟨der, cert, hder, hpem, ⟨fault, hfault⟩, hload.mpr hmarker⟩

/-- A block with the other name does not have the line that is looked for: it would have to stand in
one of the lines of the block. -/
theorem pemMarker_not_in_armour {lineEnd data : List UInt8} (hend : Pem.IsLineEnd lineEnd)
    (hdata : data ≠ []) (width : Nat) :
    ¬pemMarker <:+: Pem.armour "X509 CERTIFICATE" width lineEnd data := by
  have hne : lineEnd ≠ [] := by
    obtain rfl | rfl := hend <;> exact List.cons_ne_nil _ _
  have hfeed : 0x0a ∉ pemMarker := by decide
  have hreturn : 0x0d ∉ pemMarker := by decide
  have hapart : ∀ b ∈ lineEnd, b ∉ pemMarker := by
    obtain rfl | rfl := hend
    · simp only [List.forall_mem_singleton]
      exact hfeed
    · simp only [List.forall_mem_cons]
      exact ⟨hreturn, hfeed, List.forall_mem_nil _⟩
  have hlines := Pem.broken_encode width lineEnd hdata
  have hdash := hlines.dash_notMem hend
  obtain ⟨init, hinit⟩ := hlines.exists_append
  have hsplit : Pem.armour "X509 CERTIFICATE" width lineEnd data =
      Pem.ascii "-----BEGIN X509 CERTIFICATE-----" ++ (lineEnd ++ (init ++ (lineEnd ++
        (Pem.ascii "-----END X509 CERTIFICATE-----" ++ (lineEnd ++ []))))) := by
    rw [Pem.armour_eq, Pem.closed, hinit]
    simp only [List.append_assoc, List.append_nil]
    rfl
  rw [hinit] at hdash
  rw [hsplit]
  intro h
  rcases infix_of_infix_append_append _ hne hapart h with hopening | h
  · exact absurd hopening (by decide)
  · rcases infix_of_infix_append_append init hne hapart h with hinside | h
    · have hmem : 0x2d ∈ init := hinside.subset (by decide)
      exact hdash (List.mem_append_left lineEnd hmem)
    · rcases infix_of_infix_append_append _ hne hapart h with hclosing | hnil
      · exact absurd hclosing (by decide)
      · exact absurd hnil (by decide)

/-- **The other name is never found out.**  Whatever the certificate, its block with this name is
read when the armoured form is asked for, and cannot be loaded. -/
theorem armour_not_loaded (hdecode : Certificate.decode der = .ok cert) {lineEnd : List UInt8}
    (hend : Pem.IsLineEnd lineEnd) (width : Nat) :
    pemValue (.bytes (Pem.armour "X509 CERTIFICATE" width lineEnd der)) = .ok cert ∧
      ∃ fault, derValue (.bytes (Pem.armour "X509 CERTIFICATE" width lineEnd der)) =
          .error fault ∧
        loadValue (.bytes (Pem.armour "X509 CERTIFICATE" width lineEnd der)) = .error fault := by
  obtain ⟨fault, hfault⟩ := exists_derValue_armour "X509 CERTIFICATE" width lineEnd der
  refine ⟨pemValue_armour hdecode Pem.isLabel_x509Certificate rfl hend width, fault, hfault, ?_⟩
  rw [loadValue, load_of_not_occurs
    (pemMarker_not_in_armour hend (ne_nil_of_decode hdecode) width)]
  exact hfault

/-- A block with the other name: it is read when the armoured form is asked for, and cannot be
loaded. -/
theorem x509_label_not_loaded :
    ∃ der cert fault, sampleFrame.encode? ["foo.test"] none [] = some der ∧
      pemValue (.bytes (Pem.armour "X509 CERTIFICATE" 64 [0x0a] der)) = .ok cert ∧
      derValue (.bytes (Pem.armour "X509 CERTIFICATE" 64 [0x0a] der)) = .error fault ∧
      loadValue (.bytes (Pem.armour "X509 CERTIFICATE" 64 [0x0a] der)) = .error fault := by
  obtain ⟨der, cert, hder, hdecode⟩ := exists_sampleFrame
  obtain ⟨hpem, fault, hfault, hload⟩ := armour_not_loaded hdecode (Or.inl rfl) 64
  exact ⟨der, cert, fault, hder, hpem, hfault, hload⟩

end X509

end PeerName
