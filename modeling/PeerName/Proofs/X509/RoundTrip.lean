import PeerName.Certificate.Basic
import PeerName.Proofs.Verification.Law
import PeerName.Proofs.X509.Encoding
import PeerName.Proofs.X509.Reading

/-!
# Reading written certificates

A certificate that has been written is read with the names that were written: its alternative names
are the DNS names in their order, and its common name is the one that was given.  As a source of
names it is the certificate in memory with these names, and so every decision about it is the same.

The proof follows the nesting of the encoding.  Whatever fits has members that fit, so it is enough
that the outermost length can be written; each reader then meets the elements that were put there.

* `subject_read`, `altNames_read`, `extensions_read` — the parts;
* `fields_read`, `decode_element` — the certificate;
* `altNames?_extensions`, `commonNames_subjectName` — the names in it;
* `certificate_eq` — the certificate as a source of names;
* `listsNames_of_encode?` — the names that a written certificate lists;
* `derValue_encode?` — **what is written is read**, down to the decisions.
-/

namespace PeerName.X509

open Der (Element Tag node)

/-! ### Members -/

section Members

variable {α : Type} {tag : Tag} {members : List Element}

/-- A member that can be read is taken from the front. -/
theorem readAll_required {β : Type} {read : Element → Option α} {f : α → Der.Members β}
    {e : Element} (a : α) (h : read e = some a) :
    Der.readAll (Der.required read >>= f) (e :: members) = Der.readAll (f a) members := by
  have hbind : (Der.required read >>= f) (e :: members) = f a members := by
    show ((read e).map fun a => (a, members)).bind (fun p => f p.1 p.2) = _
    rw [h, Option.map_some, Option.bind_some]
  rw [Der.readAll, Der.readAll, hbind]

theorem members?_node (h : (node tag members).Fits) (htag : members.all (·.tag.isShort) = true)
    (read : Der.Members α) : (node tag members).members? tag read = Der.readAll read members := by
  rw [Element.members?, Der.inside?_node h htag, Option.bind_some]

theorem listOf?_node (h : (node tag members).Fits) (htag : members.all (·.tag.isShort) = true)
    (read : Element → Option α) : (node tag members).listOf? tag read = members.mapM read := by
  rw [Element.listOf?, Der.inside?_node h htag, Option.bind_some]

theorem single?_flatMap {e : Element} (h : (node tag [e]).Fits) (htag : e.tag.isShort = true) :
    Der.single? ([e].flatMap Element.bytes) = some e := by
  rw [List.flatMap_singleton]
  exact Der.single?_bytes htag (h.of_mem List.mem_cons_self)

/-- The byte sequences of written elements are the bytes of each of them. -/
theorem encodedElements_flatMap (h : Der.Writable members) (fuel : Nat)
    (hfuel : members.length ≤ fuel) :
    encodedElements fuel (members.flatMap Element.bytes) = members.map Element.bytes := by
  induction members generalizing fuel with
  | nil => cases fuel <;> rfl
  | cons e members ih =>
    cases fuel with
    | zero => exact absurd hfuel (Nat.not_succ_le_zero _)
    | succ fuel =>
      have hread := h.read?_flatMap
      rw [encodedElements, hread]
      simp only [ih h.tail fuel (Nat.le_of_succ_le_succ hfuel), List.flatMap_cons,
        List.length_append, Nat.add_sub_cancel, List.take_left, List.map_cons]

end Members

/-! ### The subject -/

theorem formed?_mk {tag : Tag} {form : List UInt8 → Bool} {content : List UInt8}
    (h : form content = true) : Element.formed? tag form ⟨tag, content⟩ = some content := by
  rw [Element.formed?, Element.content?, if_pos rfl, Option.filter_some, if_pos h]

theorem attribute_read {identifier : List UInt8} {text : String}
    (h : (node .sequence [⟨.identifier, identifier⟩, textValue text]).Fits)
    (hid : Der.isIdentifier identifier = true) :
    Attribute.ofElement? (node .sequence [⟨.identifier, identifier⟩, textValue text]) =
      some (textAttribute identifier text) := by
  rw [Attribute.ofElement?, members?_node h rfl, readAll_required identifier (formed?_mk hid),
    readAll_required (textValue text)]
  · rfl
  · exact if_pos rfl

/-- A set of a single attribute is in order. -/
theorem attributeSet_read {identifier : List UInt8} {text : String}
    (h : (attributeSet identifier text).Fits) (hid : Der.isIdentifier identifier = true) :
    attributeSet? .set (attributeSet identifier text) = some [textAttribute identifier text] := by
  have hattribute := attribute_read (h.of_mem List.mem_cons_self) hid
  have hwritable := h.writable rfl
  have hsorted := encodedElements_flatMap hwritable _ (Der.length_le_length_flatMap _)
  rw [attributeSet?, attributeSet, Der.content?_node, Option.bind_eq_bind, Option.bind_some,
    hwritable.elements?_flatMap, Option.bind_eq_bind, Option.bind_some, hsorted, List.map_singleton,
    if_pos (show isSorted [_] = true from rfl), List.mapM_cons, hattribute]
  rfl

/-- The subject is the name that was written. -/
theorem subject_read {organization : String} {commonName : Option String}
    (h : (subject organization commonName).Fits) :
    Name.ofElement? (subject organization commonName) =
      some (subjectName organization commonName) := by
  cases commonName with
  | none =>
    have horganization := attributeSet_read (h.of_mem List.mem_cons_self) rfl
    rw [Name.ofElement?, subject, listOf?_node h rfl, List.mapM_cons, horganization]
    rfl
  | some text =>
    have horganization := attributeSet_read (h.of_mem List.mem_cons_self) rfl
    have hname := attributeSet_read (h.of_mem (List.mem_cons_of_mem _ List.mem_cons_self)) rfl
    rw [Name.ofElement?, subject, listOf?_node h rfl, List.mapM_cons, horganization]
    show ((attributeSet? .set (attributeSet commonNameId text)).bind fun _ => _).bind _ = _
    rw [hname]
    rfl

/-! ### The alternative names -/

variable {dns : List String} {addresses : List Address}

theorem dns_read (name : String) :
    GeneralName.ofElement? ⟨.context 2, Utf8.encode name⟩ = some (.dns name) := by
  show (Utf8.decode? (Utf8.encode name)).map GeneralName.dns = _
  rw [Utf8.decode?_encode, Option.map_some]

theorem isShort_altNameEntries (dns : List String) (addresses : List Address) :
    (altNameEntries dns addresses).all (·.tag.isShort) = true := by
  rw [altNameEntries, List.all_append, List.all_map, List.all_map, Bool.and_eq_true]
  exact ⟨List.all_eq_true.mpr fun _ _ => rfl, List.all_eq_true.mpr fun _ _ => rfl⟩

/-- The alternative names are the entries that were written. -/
theorem altNames_read (h : (altNamesValue dns addresses).Fits) :
    generalNames? .sequence (altNamesValue dns addresses) =
      some (generalNames dns addresses) := by
  have hdns : (GeneralName.ofElement? ∘ fun name => ⟨.context 2, Utf8.encode name⟩) =
      fun name => pure (GeneralName.dns name) := funext dns_read
  have haddress : (GeneralName.ofElement? ∘ fun address : Address => ⟨.context 7, address.val⟩) =
      fun address => pure (GeneralName.ip address.val) := rfl
  rw [generalNames?, altNamesValue, listOf?_node h (isShort_altNameEntries dns addresses),
    altNameEntries, List.mapM_append, List.mapM_map, List.mapM_map, hdns, haddress,
    List.mapM_pure, List.mapM_pure]
  rfl

/-- The alternative names that were written pass their checks. -/
theorem checkNames_generalNames (dns : List String) (addresses : List Address) :
    checkNames (generalNames dns addresses) = .ok () := by
  refine (forM_eq_ok_iff _ _).mpr fun name hmem => ?_
  rw [generalNames, List.mem_append, List.mem_map, List.mem_map] at hmem
  obtain ⟨text, -, rfl⟩ | ⟨address, -, rfl⟩ := hmem
  · rfl
  · rw [GeneralName.check, isAddress, if_pos address.property, if_pos rfl]

/-- The value of the extension is the list of alternative names. -/
theorem readValue_altNames (h : (altNamesValue dns addresses).Fits) :
    readValue (generalNames? .sequence) (altNamesValue dns addresses).bytes =
      .ok (generalNames dns addresses) := by
  rw [readValue, Der.single?_bytes rfl h, Option.bind_some, altNames_read h]

/-! ### Extensions -/

theorem altNamesElement_read (h : (altNamesElement dns addresses).Fits) :
    Extension.ofElement? (altNamesElement dns addresses) =
      some (altNamesExtension dns addresses) := by
  rw [Extension.ofElement?, altNamesElement, members?_node h rfl,
    readAll_required altNamesId (formed?_mk rfl)]
  rfl

/-- The extensions are the ones that were written. -/
theorem extensions_read (h : ∀ e ∈ extensionFields dns addresses, e.Fits) :
    extensions? (extensionFields dns addresses) = some (extensions dns addresses) := by
  rw [extensionFields] at *
  rw [extensions]
  cases hempty : dns.isEmpty && addresses.isEmpty with
  | true => rfl
  | false =>
    rw [hempty] at h
    have hfield := h _ List.mem_cons_self
    have hlist := hfield.of_mem List.mem_cons_self
    have hentry := altNamesElement_read (hlist.of_mem List.mem_cons_self)
    rw [if_neg Bool.false_ne_true, if_neg Bool.false_ne_true, extensions?, Der.content?_node,
      Option.bind_eq_bind, Option.bind_some, single?_flatMap hfield rfl, Option.bind_eq_bind,
      Option.bind_some, Der.inside?_node hlist rfl, Option.bind_eq_bind, Option.bind_some,
      List.mapM_cons, hentry]
    rfl

/-- The value of the extension fits if the field with it does. -/
theorem fits_altNamesValue (hsome : (dns.isEmpty && addresses.isEmpty) = false)
    (h : ∀ e ∈ extensionFields dns addresses, e.Fits) : (altNamesValue dns addresses).Fits := by
  rw [extensionFields, hsome] at h
  have hfield := h _ List.mem_cons_self
  have hlist := hfield.of_mem List.mem_cons_self
  have hentry := hlist.of_mem List.mem_cons_self
  have hoctets := hentry.of_mem (List.mem_cons_of_mem _ List.mem_cons_self)
  exact Nat.lt_trans (Element.length_content_lt _) hoctets

/-! ### Certificates -/

variable {frame : Frame} {commonName : Option String}

theorem version_read (h : Frame.version.Fits) (rest : List Element) :
    takeVersion (Frame.version :: rest) = some (2, rest) := by
  rw [takeVersion, if_pos (show Frame.version.tag = .contextConstructed 0 from rfl)]
  show (Der.single? ([⟨Tag.integer, [2]⟩].flatMap Element.bytes)).bind _ = _
  rw [single?_flatMap h rfl]
  rfl

/-- There is no unique identifier before the extensions. -/
theorem dropUniqueId_extensionFields (n : Nat) (dns : List String) (addresses : List Address) :
    dropUniqueId n (extensionFields dns addresses) = some (extensionFields dns addresses) := by
  rw [extensionFields]
  cases dns.isEmpty && addresses.isEmpty <;> rfl

theorem isShort_extensionFields (dns : List String) (addresses : List Address) :
    (extensionFields dns addresses).all (·.tag.isShort) = true := by
  rw [extensionFields]
  cases dns.isEmpty && addresses.isEmpty <;> rfl

/-- The fields of the signed part are the ones that were written. -/
theorem fields_read (h : (node .sequence (frame.fields dns commonName addresses)).Fits) :
    fields? (frame.fields dns commonName addresses) =
      some (2, ⟨subjectName frame.organization commonName, extensions dns addresses⟩) := by
  have hversion : Frame.version.Fits := h.of_mem (by simp [Frame.fields])
  have hsubject : (subject frame.organization commonName).Fits := h.of_mem (by simp [Frame.fields])
  have hextensions : ∀ e ∈ extensionFields dns addresses, e.Fits := fun e hmem =>
    h.of_mem (by simp [Frame.fields, hmem])
  obtain ⟨issuer, hissuer⟩ := Option.isSome_iff_exists.mp frame.isSome_issuer
  rw [fields?, Frame.fields, version_read hversion]
  simp only [Option.bind_eq_bind, Option.bind_some, hissuer, subject_read hsubject,
    dropUniqueId_extensionFields, extensions_read hextensions, frame.isInteger_serial,
    frame.isAlgorithm_signedAlgorithm, frame.isValidity_validity, frame.isKey_key]
  rfl

/-- The certificate is the one that was written. -/
theorem decode_element (h : (frame.element dns commonName addresses).Fits) :
    Certificate.decode (frame.element dns commonName addresses).bytes =
      .ok ⟨subjectName frame.organization commonName, extensions dns addresses⟩ := by
  have hsigned : (node .sequence (frame.fields dns commonName addresses)).Fits :=
    h.of_mem List.mem_cons_self
  have hshort : (frame.fields dns commonName addresses).all (·.tag.isShort) = true :=
    isShort_extensionFields dns addresses
  have hbits : isBits ⟨.bitString, frame.signature⟩ = true := frame.isBitString_signature
  have hparse : parse? (frame.element dns commonName addresses).bytes =
      some (2, ⟨subjectName frame.organization commonName, extensions dns addresses⟩) := by
    rw [parse?, Der.single?_bytes rfl h, Frame.element, Option.bind_eq_bind, Option.bind_some,
      Der.inside?_node h rfl, Option.bind_eq_bind, Option.bind_some]
    simp only [Der.inside?_node hsigned hshort, Option.bind_some, frame.isAlgorithm_algorithm,
      hbits, Bool.and_self, if_true, fields_read hsigned]
  rw [Certificate.decode, hparse]
  rfl

/-! ### Names -/

/-- The extension passes the check of alternative names. -/
theorem check_altNamesExtension (h : (altNamesValue dns addresses).Fits) :
    (altNamesExtension dns addresses).check = .ok () := by
  have hknown : knownExtensions.lookup altNamesId = some Names.check := rfl
  have hnames : Names.check (altNamesValue dns addresses).bytes = .ok () := by
    rw [Names.check, readValue_altNames h]
    exact checkNames_generalNames dns addresses
  rw [Extension.check, altNamesExtension]
  simp only [hknown, hnames]

/-- The alternative names of the certificate are the ones that were written. -/
theorem altNames?_extensions (h : ∀ e ∈ extensionFields dns addresses, e.Fits) :
    altNames? (extensions dns addresses) =
      .ok (if dns.isEmpty && addresses.isEmpty then none
        else some (generalNames dns addresses)) := by
  -- without names there is no extension, and so nothing to check
  cases hempty : dns.isEmpty && addresses.isEmpty with
  | true =>
    rw [extensions, hempty]
    rfl
  | false =>
    have hfits := fits_altNamesValue hempty h
    have hcheck : checkExtensions [altNamesExtension dns addresses] = .ok () := by
      show (altNamesExtension dns addresses).check >>= _ = _
      rw [check_altNamesExtension hfits]
      rfl
    rw [extensions, hempty, if_neg Bool.false_ne_true, altNames?, hcheck]
    show some <$> readValue (generalNames? .sequence) (altNamesValue dns addresses).bytes = _
    rw [readValue_altNames hfits]
    rfl

theorem resolve_textAttribute (identifier : List UInt8) (text : String) :
    (textAttribute identifier text).resolve = .ok (.text text) := by
  have htext : stringText (textValue text) = .ok text := by
    rw [stringText]
    simp only [textValue, if_neg (show Tag.utf8String ≠ .bmpString by decide),
      if_neg (show Tag.utf8String ≠ .universalString by decide), Utf8.decode?_encode]
  show (stringText (textValue text)).map AttributeValue.text = _
  rw [htext]
  rfl

theorem resolveSet_textAttribute (identifier : List UInt8) (text : String) :
    resolveSet [textAttribute identifier text] = .ok [⟨identifier, .text text⟩] := by
  rw [resolveSet, List.mapM_cons, resolve_textAttribute]
  rfl

/-- The common names of the subject are the one that was written, if there was one. -/
theorem commonNames_subjectName (organization : String) (commonName : Option String)
    (extensions : List Extension) :
    (Certificate.mk (subjectName organization commonName) extensions).commonNames =
      .ok (commonName.map Value.text).toList := by
  have horganization := resolveSet_textAttribute organizationId organization
  cases commonName with
  | none =>
    rw [Certificate.commonNames, subjectName, Name.resolve, List.mapM_cons, horganization]
    rfl
  | some text =>
    have hname := resolveSet_textAttribute commonNameId text
    rw [Certificate.commonNames, subjectName, Name.resolve, List.mapM_cons, horganization]
    simp only [Option.map_some, Option.toList_some, List.mapM_cons, hname]
    rfl

/-- The DNS names among the alternative names are the ones that were written, in their order. -/
theorem dnsNames_generalNames (dns : List String) (addresses : List Address) :
    dnsNames (generalNames dns addresses) = dns.map .text := by
  have haddresses : dnsNames (addresses.map fun address => .ip address.val) = [] := by
    rw [dnsNames, List.filterMap_map, List.filterMap_eq_nil_iff]
    exact fun _ _ => rfl
  have hdns : dnsNames (dns.map .dns) = dns.map .text := by
    rw [dnsNames, List.filterMap_map, ← List.filterMap_eq_map]
    rfl
  rw [generalNames, dnsNames, List.filterMap_append]
  show dnsNames _ ++ dnsNames _ = _
  rw [hdns, haddresses, List.append_nil]

theorem ofGeneralNames_of_ok (found : Option (List GeneralName)) (values : List Value) :
    PeerName.Certificate.ofGeneralNames (.ok found) (.ok values) =
      { hasAltNames := { outcome := .ok (.bool (!((found.map dnsNames).getD []).isEmpty)) }
        altNames := { outcome := .ok (.list ((found.map dnsNames).getD [])) }
        commonName := commonNameReading values } :=
  rfl

/-- As a source of names, the certificate is the one in memory with the names written. -/
theorem certificate_eq (organization : String)
    (h : ∀ e ∈ extensionFields dns addresses, e.Fits) :
    (Certificate.mk (subjectName organization commonName) (extensions dns addresses)).certificate =
      InMemory.certificate ⟨dns.map .text, .ofText? commonName⟩ := by
  have hnames : ((if dns.isEmpty && addresses.isEmpty then none
      else some (generalNames dns addresses)).map dnsNames).getD [] = dns.map Value.text := by
    cases hempty : dns.isEmpty && addresses.isEmpty with
    | true =>
      rw [List.isEmpty_iff.mp (Bool.and_eq_true_iff.mp hempty).1]
      rfl
    | false => exact dnsNames_generalNames dns addresses
  have hcommon : commonNameReading (commonName.map Value.text).toList =
      { outcome := .ok (.ofText? commonName) } := by
    cases commonName <;> rfl
  rw [Certificate.certificate, Certificate.altNames?, altNames?_extensions h,
    commonNames_subjectName, Except.mapError, Except.mapError, ofGeneralNames_of_ok, hnames,
    hcommon]
  rfl

/-- The bytes of a certificate decode to the subject and the extensions that were written, and all
parts of the extensions fit. -/
theorem decode_encode? {der : List UInt8}
    (hder : frame.encode? dns commonName addresses = some der) :
    Certificate.decode der =
        .ok ⟨subjectName frame.organization commonName, extensions dns addresses⟩ ∧
      ∀ e ∈ extensionFields dns addresses, e.Fits := by
  rw [Frame.encode?, Option.ite_none_right_eq_some] at hder
  obtain ⟨hlength, hbytes⟩ := hder
  obtain rfl := Option.some.inj hbytes
  have hfits : (frame.element dns commonName addresses).Fits := hlength
  have hsigned : (node .sequence (frame.fields dns commonName addresses)).Fits :=
    hfits.of_mem List.mem_cons_self
  refine ⟨decode_element hfits, fun e hmem => hsigned.of_mem ?_⟩
  simp [Frame.fields, hmem]

/-- A certificate that has been written lists the DNS names that were written. -/
theorem listsNames_of_encode? {frame : Frame} {dns : List String} {commonName : Option String}
    {addresses : List Address} {der : List UInt8}
    (hder : frame.encode? dns commonName addresses = some der) :
    ∃ cert : Certificate, Certificate.decode der = .ok cert ∧
      cert.ListsNames (dns.map .text) := by
  obtain ⟨hdecode, hfits⟩ := decode_encode? hder
  refine ⟨_, hdecode, (Certificate.listsNames_iff _ _).mpr
    ⟨_, altNames?_extensions hfits, ?_⟩⟩
  cases hempty : dns.isEmpty && addresses.isEmpty with
  | true =>
    rw [List.isEmpty_iff.mp (Bool.and_eq_true_iff.mp hempty).1]
    rfl
  | false => exact dnsNames_generalNames dns addresses

/-- **What is written is read.**  The bytes of a certificate are read as a certificate.  Its
alternative names are the DNS names that were written, in their order; its common name is the one
that was written, or null; it has alternative names exactly when there was a DNS name.  Under every
configuration every host gets the report that it gets for the names held in memory. -/
theorem derValue_encode? [Limits] (frame : Frame) (dns : List String) (commonName : Option String)
    (addresses : List Address) (der : List UInt8)
    (hder : frame.encode? dns commonName addresses = some der) :
    ∃ cert : Certificate, derValue (.bytes der) = .ok cert ∧
      cert.certificate.altNames.outcome = .ok (.list (dns.map .text)) ∧
      cert.certificate.commonName.outcome = .ok (.ofText? commonName) ∧
      cert.certificate.hasAltNames.outcome = .ok (.bool (decide (dns ≠ []))) ∧
      ∃ held, InMemory.ofValues (.list (dns.map .text)) (.ofText? commonName) = .ok held ∧
        ∀ config host,
          reportUnder config (some cert.certificate) host =
            reportUnder config (some held.certificate) host := by
  rw [Frame.encode?, Option.ite_none_right_eq_some] at hder
  obtain ⟨hlength, hbytes⟩ := hder
  obtain rfl := Option.some.inj hbytes
  have hfits : (frame.element dns commonName addresses).Fits := hlength
  have hsigned : (node .sequence (frame.fields dns commonName addresses)).Fits :=
    hfits.of_mem List.mem_cons_self
  have hextensions : ∀ e ∈ extensionFields dns addresses, e.Fits := fun e hmem =>
    hsigned.of_mem (by simp [Frame.fields, hmem])
  -- everything asked of the certificate is asked of the one in memory
  have hcert := @certificate_eq _ _ commonName frame.organization hextensions
  refine ⟨⟨subjectName frame.organization commonName, extensions dns addresses⟩, ?_, ?_, ?_, ?_,
    ⟨dns.map .text, .ofText? commonName⟩, rfl, ?_⟩
  · rw [derValue, decode_element hfits]
    rfl
  · rw [hcert]
    rfl
  · rw [hcert]
    rfl
  · rw [hcert]
    cases dns <;> rfl
  · intro config host
    rw [hcert]

/-- A frame with a key of 32 bytes and a signature of 64 bytes. -/
def sampleFrame : Frame where
  serial := [0x12, 0x34]
  signedAlgorithm := [0x06, 0x03, 0x2b, 0x65, 0x70]
  issuer := [0x31, 0x10, 0x30, 0x0e, 0x06, 0x03, 0x55, 0x04, 0x03, 0x0c, 0x07] ++
    Utf8.encode "Test CA"
  validity := [0x17, 0x0d] ++ Utf8.encode "240101000000Z" ++
    [0x17, 0x0d] ++ Utf8.encode "340101000000Z"
  key := [0x30, 0x05, 0x06, 0x03, 0x2b, 0x65, 0x70, 0x03, 0x21, 0x00] ++ List.replicate 32 0x5a
  algorithm := [0x06, 0x03, 0x2b, 0x65, 0x70]
  signature := 0x00 :: List.replicate 64 0x00
  organization := "Test Org"
  isInteger_serial := by decide +kernel
  isAlgorithm_signedAlgorithm := by decide +kernel
  isSome_issuer := by decide +kernel
  isValidity_validity := by decide +kernel
  isKey_key := by decide +kernel
  isAlgorithm_algorithm := by decide +kernel
  isBitString_signature := by decide +kernel

/-- It frames a certificate for one DNS name. -/
theorem exists_sampleFrame :
    ∃ der cert, sampleFrame.encode? ["foo.test"] none [] = some der ∧
      Certificate.decode der = .ok cert := by
  have hsome : (sampleFrame.encode? ["foo.test"] none []).isSome = true := by decide +kernel
  obtain ⟨der, hder⟩ := Option.isSome_iff_exists.mp hsome
  exact ⟨der, _, hder, (decode_encode? hder).1⟩

/-- A certificate with two DNS names, a common name and an address. -/
theorem sampleFrame_read :
    let _ : Limits := .usual
    ∃ der, sampleFrame.encode? ["foo.test", "*.bar.test"] (some "*.webrtc.org")
        [⟨[127, 0, 0, 1], Or.inl rfl⟩] = some der ∧
      ∃ cert : Certificate, derValue (.bytes der) = .ok cert ∧
        cert.certificate.altNames.outcome = .ok (.list [.text "foo.test", .text "*.bar.test"]) ∧
        cert.certificate.commonName.outcome = .ok (.text "*.webrtc.org") ∧
        cert.certificate.hasAltNames.outcome = .ok (.bool true) ∧
        ∃ held, InMemory.ofValues (.list [.text "foo.test", .text "*.bar.test"])
            (.text "*.webrtc.org") = .ok held ∧
          ∀ config host,
            reportUnder config (some cert.certificate) host =
              reportUnder config (some held.certificate) host := by
  intro _
  have hsome : (sampleFrame.encode? ["foo.test", "*.bar.test"] (some "*.webrtc.org")
      [⟨[127, 0, 0, 1], Or.inl rfl⟩]).isSome = true := by decide +kernel
  obtain ⟨der, hder⟩ := Option.isSome_iff_exists.mp hsome
  exact ⟨der, hder, derValue_encode? sampleFrame _ _ _ der hder⟩

end PeerName.X509
