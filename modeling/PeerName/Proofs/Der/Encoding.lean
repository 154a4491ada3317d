import Mathlib.Data.Nat.Digits.Lemmas
import PeerName.Der.Members

/-!
# Writing elements

An element is written as its tag, its length and its content, in the one admissible form of each.
Only the tags of a single byte are written, and lengths of up to 126 bytes; both cover all that
certificates are made of.  What is written is read again, whatever bytes follow.

* `lengthBytes`, `Element.bytes` — the bytes of a length and of an element;
* `node` — the element whose content is a sequence of elements;
* `Element.Fits` — the length of the content can be written;
* `readLength_lengthBytes` — a length is read again;
* `Element.read?_bytes`, `Writable.elements?_flatMap` — **elements are read again**;
* `inside?_node` — the members of an element are found inside it.
-/

namespace PeerName.Der

/-- The bytes of a number, the most significant one first, without leading zeros. -/
def numberBytes (n : Nat) : List UInt8 := ((Nat.digits 256 n).map UInt8.ofNat).reverse

/-- The bytes of a length. -/
def lengthBytes (n : Nat) : List UInt8 :=
  if n < 0x80 then [UInt8.ofNat n]
  else UInt8.ofNat (0x80 + (numberBytes n).length) :: numberBytes n

/-- The bound of the lengths that can be written. -/
def lengthBound : Nat := 256 ^ maxLengthBytes

/-- Whether a tag is written as a single byte. -/
def Tag.isShort (t : Tag) : Bool := t.form < 8 && t.number < 31

/-- The byte of a tag. -/
def Tag.byte (t : Tag) : UInt8 := UInt8.ofNat (t.form * 32 + t.number)

namespace Element

/-- The bytes of an element. -/
def bytes (e : Element) : List UInt8 := e.tag.byte :: lengthBytes e.content.length ++ e.content

/-- The length of the content can be written. -/
def Fits (e : Element) : Prop := e.content.length < lengthBound

end Element

/-- The element with this tag whose content is a sequence of elements. -/
def node (tag : Tag) (members : List Element) : Element := ⟨tag, members.flatMap Element.bytes⟩

/-! ### Numbers -/

/-- The digits of a number stay what they are when they are written as bytes. -/
theorem map_toNat_digits (n : Nat) :
    ((Nat.digits 256 n).map UInt8.ofNat).map UInt8.toNat = Nat.digits 256 n := by
  rw [List.map_map]
  refine (List.map_congr_left fun d hd => ?_).trans (List.map_id _)
  exact UInt8.toNat_ofNat_of_lt' (Nat.digits_lt_base (by decide) hd)

theorem bigEndian_eq_ofDigits (bytes : List UInt8) :
    bigEndian bytes = Nat.ofDigits 256 (bytes.reverse.map UInt8.toNat) := by
  rw [Nat.ofDigits_eq_foldr, List.foldr_map, List.foldr_reverse, bigEndian]
  congr 1
  funext n b
  rw [Nat.cast_id, Nat.mul_comm, Nat.add_comm]

/-- The bytes of a number stand for this number. -/
theorem bigEndian_numberBytes (n : Nat) : bigEndian (numberBytes n) = n := by
  rw [bigEndian_eq_ofDigits, numberBytes, List.reverse_reverse, map_toNat_digits,
    Nat.ofDigits_digits]

theorem length_numberBytes_le {n count : Nat} (h : n < 256 ^ count) :
    (numberBytes n).length ≤ count := by
  rw [numberBytes, List.length_reverse, List.length_map]
  exact (Nat.digits_length_le_iff (by decide) n).mpr h

theorem numberBytes_ne_nil {n : Nat} (h : n ≠ 0) : numberBytes n ≠ [] := by
  rw [numberBytes, Ne, List.reverse_eq_nil_iff, List.map_eq_nil_iff]
  exact Nat.digits_ne_nil_iff_ne_zero.mpr h

/-- There are no leading zeros. -/
theorem head?_numberBytes_ne (n : Nat) : (numberBytes n).head? ≠ some 0 := by
  rw [numberBytes, List.head?_reverse, List.getLast?_map]
  by_cases hn : n = 0
  · rw [hn, Nat.digits_zero]
    exact nofun
  · have hne : Nat.digits 256 n ≠ [] := Nat.digits_ne_nil_iff_ne_zero.mpr hn
    have hdigit := Nat.digits_lt_base (by decide) (List.getLast_mem hne)
    rw [List.getLast?_eq_some_getLast hne, Option.map_some, Ne, Option.some.injEq,
      ← UInt8.toNat_inj, UInt8.toNat_ofNat_of_lt' hdigit]
    exact Nat.getLast_digit_ne_zero 256 hn

/-! ### Lengths -/

/-- **A length is read again.** -/
theorem readLength_lengthBytes {n : Nat} (h : n < lengthBound) (rest : List UInt8) :
    readLength (lengthBytes n ++ rest) = some (n, rest) := by
  rw [lengthBytes]
  split
  · next hshort =>
    have hb := UInt8.toNat_ofNat_of_lt' (show n < 256 by omega)
    simp only [List.singleton_append, readLength, hb, hshort, if_true]
  · next hlong =>
    have hcount : (numberBytes n).length ≤ maxLengthBytes := length_numberBytes_le h
    have hpos : 0 < (numberBytes n).length :=
      List.length_pos_iff.mpr (numberBytes_ne_nil (by omega))
    -- the count and its mark share a byte, so the count must stay below 128
    have hmax : maxLengthBytes = 126 := rfl
    have hb := UInt8.toNat_ofNat_of_lt' (show 0x80 + (numberBytes n).length < 256 by omega)
    have hlarge : ¬0x80 + (numberBytes n).length < 0x80 := by omega
    have hsome : ¬((numberBytes n).length = 0 ∨ maxLengthBytes < (numberBytes n).length ∨
        (numberBytes n).length < (numberBytes n).length) := by omega
    have hform : ¬((numberBytes n).head? = some 0 ∨ n < 0x80) :=
      not_or.mpr ⟨head?_numberBytes_ne n, hlong⟩
    simp only [List.cons_append, readLength, hb, hlarge, if_false, Nat.add_sub_cancel_left,
      List.take_left, List.drop_left, bigEndian_numberBytes, hsome, hform]

/-! ### Elements -/

theorem readTag_byte {t : Tag} (h : t.isShort = true) (rest : List UInt8) :
    readTag (t.byte :: rest) = some (t, rest) := by
  obtain ⟨form, number⟩ := t
  rw [Tag.isShort, Bool.and_eq_true, decide_eq_true_iff, decide_eq_true_iff] at h
  obtain ⟨hform, hnumber⟩ : form < 8 ∧ number < 31 := h
  have hb := UInt8.toNat_ofNat_of_lt' (show form * 32 + number < 256 by omega)
  have hlow : (form * 32 + number) % 32 < 31 := by omega
  simp only [Tag.byte, readTag, hb, hlow, if_true, Tag.ofByte]
  rw [show (form * 32 + number) / 32 = form by omega,
    show (form * 32 + number) % 32 = number by omega]

theorem Element.bytes_ne_nil (e : Element) : e.bytes ≠ [] := List.cons_ne_nil _ _

theorem Element.length_content_lt (e : Element) : e.content.length < e.bytes.length := by
  rw [bytes, List.length_append, List.length_cons]
  omega

/-- **An element in front of other bytes is read again.** -/
theorem Element.read?_bytes {e : Element} (htag : e.tag.isShort = true) (hfits : e.Fits)
    (rest : List UInt8) : Element.read? (e.bytes ++ rest) = some (e, rest) := by
  have hlength := readLength_lengthBytes hfits (e.content ++ rest)
  rw [bytes, List.append_assoc, List.cons_append, read?, readTag_byte htag]
  simp only [Option.bind_eq_bind, Option.bind_some, hlength, List.take_left, List.drop_left,
    Nat.lt_irrefl, if_false]

theorem single?_bytes {e : Element} (htag : e.tag.isShort = true) (hfits : e.Fits) :
    single? e.bytes = some e := by
  have h := Element.read?_bytes htag hfits []
  rw [List.append_nil] at h
  rw [single?, h]

/-! ### Sequences of elements -/

theorem elementsFrom_of_read? {bytes rest : List UInt8} {e : Element} (fuel : Nat)
    (h : Element.read? bytes = some (e, rest)) :
    elementsFrom (fuel + 1) bytes = (elementsFrom fuel rest).map (e :: ·) := by
  cases bytes with
  | nil => exact nomatch h
  | cons b bytes =>
    rw [elementsFrom, h]
    · show (elementsFrom fuel rest).bind (fun more => some (e :: more)) = _
      cases elementsFrom fuel rest <;> rfl
    · exact nofun

/-- All that a sequence of elements has to be for its bytes to be read again. -/
def Writable (members : List Element) : Prop := ∀ e ∈ members, e.tag.isShort = true ∧ e.Fits

theorem Writable.tail {e : Element} {members : List Element} (h : Writable (e :: members)) :
    Writable members := fun other hmem => h other (List.mem_cons_of_mem e hmem)

variable {tag : Tag} {members : List Element}

theorem Writable.read?_flatMap {e : Element} (h : Writable (e :: members)) :
    Element.read? ((e :: members).flatMap Element.bytes) =
      some (e, members.flatMap Element.bytes) := by
  have he := h e List.mem_cons_self
  rw [List.flatMap_cons, Element.read?_bytes he.1 he.2]

theorem Writable.elementsFrom_flatMap (h : Writable members) (fuel : Nat)
    (hfuel : members.length ≤ fuel) :
    elementsFrom fuel (members.flatMap Element.bytes) = some members := by
  induction members generalizing fuel with
  | nil => cases fuel <;> rfl
  | cons e members ih =>
    cases fuel with
    | zero => exact absurd hfuel (Nat.not_succ_le_zero _)
    | succ fuel =>
      rw [elementsFrom_of_read? fuel h.read?_flatMap,
        ih h.tail fuel (Nat.le_of_succ_le_succ hfuel), Option.map_some]

/-- There are at most as many elements as there are bytes. -/
theorem length_le_length_flatMap (members : List Element) :
    members.length ≤ (members.flatMap Element.bytes).length := by
  induction members with
  | nil => exact Nat.le_refl _
  | cons e members ih =>
    have hpos := List.length_pos_iff.mpr e.bytes_ne_nil
    rw [List.flatMap_cons, List.length_append, List.length_cons]
    omega

/-- **A sequence of elements is read again.** -/
theorem Writable.elements?_flatMap (h : Writable members) :
    elements? (members.flatMap Element.bytes) = some members :=
  h.elementsFrom_flatMap _ (length_le_length_flatMap members)

/-! ### Members -/

theorem length_bytes_le_of_mem {e : Element} (hmem : e ∈ members) :
    e.bytes.length ≤ (members.flatMap Element.bytes).length := by
  rw [List.flatMap_def]
  exact (List.sublist_flatten_of_mem (List.mem_map_of_mem hmem)).length_le

/-- What fits has members that fit. -/
theorem Element.Fits.of_mem (h : (node tag members).Fits) {e : Element} (hmem : e ∈ members) :
    e.Fits :=
  Nat.lt_of_lt_of_le e.length_content_lt
    (Nat.le_trans (length_bytes_le_of_mem hmem) (Nat.le_of_lt h))

theorem Element.Fits.writable (h : (node tag members).Fits)
    (htag : members.all (·.tag.isShort) = true) : Writable members := fun e hmem =>
  ⟨List.all_eq_true.mp htag e hmem, h.of_mem hmem⟩

theorem content?_node (tag : Tag) (members : List Element) :
    (node tag members).content? tag = some (members.flatMap Element.bytes) :=
  if_pos rfl

/-- The members of an element are found inside it. -/
theorem inside?_node (h : (node tag members).Fits) (htag : members.all (·.tag.isShort) = true) :
    (node tag members).inside? tag = some members := by
  rw [Element.inside?, content?_node]
  exact (h.writable htag).elements?_flatMap

end PeerName.Der
