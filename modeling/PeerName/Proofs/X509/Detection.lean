import PeerName.Proofs.Session.FailClosed
import PeerName.X509.Load

/-!
# One certificate from a file and from a session

A session gives the bytes of a certificate, and these are decoded as they are.  A file can hold the
same bytes; there the form is found out first, by looking for the opening line of an armoured block
anywhere among them.  The bytes of a certificate hold texts that its holder chose, and this line
can be one of them.  Then the file is taken for an armoured one: what counts is the first block in
it, which can be broken, or can hold another certificate.

* `occursIn_iff` — the search for the opening line;
* `Certificate.SameNames`, `Recovers` — two certificates show the same names, and bytes give a
  certificate with the same names as another one;
* `exists_cons_of_decode` — how the bytes of a certificate begin;
* `recovers_load_iff` — **when the form is found out rightly**;
* `file_agrees_with_session_iff` — when a file and a session are decided alike;
* `marker_as_commonName` — a certificate that is decoded and cannot be loaded.
-/

namespace PeerName

/-- Two certificates show the same names: each place reads alike. -/
structure Certificate.SameNames (cert other : Certificate) : Prop where
  altNames : cert.altNames.outcome = other.altNames.outcome
  hasAltNames : cert.hasAltNames.outcome = other.hasAltNames.outcome
  commonName : cert.commonName.outcome = other.commonName.outcome

theorem Certificate.SameNames.refl (cert : Certificate) : cert.SameNames cert := ⟨rfl, rfl, rfl⟩

/-- Certificates that show the same names are decided alike. -/
theorem Certificate.SameNames.agrees {cert other : Certificate} (h : cert.SameNames other) :
    cert.Agrees other :=
  ⟨h.hasAltNames, h.altNames, Or.inr h.commonName⟩

namespace X509

variable {bytes : List UInt8} {cert : Certificate}

/-! ### The opening line -/

/-- Bytes occur in others exactly when they are a part of them without gaps. -/
theorem occursIn_iff (part bytes : List UInt8) : occursIn part bytes = true ↔ part <:+: bytes := by
  induction bytes with
  | nil => rw [occursIn, List.isEmpty_iff, List.infix_nil]
  | cons b rest ih =>
    rw [occursIn, Bool.or_eq_true, List.isPrefixOf_iff_prefix, ih, List.infix_cons_iff]

theorem load_of_occurs (h : pemMarker <:+: bytes) :
    Certificate.load bytes = Certificate.ofPem bytes := by
  rw [Certificate.load, if_pos ((occursIn_iff _ _).mpr h)]

theorem load_of_not_occurs (h : ¬pemMarker <:+: bytes) :
    Certificate.load bytes = Certificate.decode bytes := by
  rw [Certificate.load, if_neg (fun hoccurs => h ((occursIn_iff _ _).mp hoccurs))]

/-! ### The bytes of a certificate -/

/-- What is decoded is an element with the tag of a sequence. -/
theorem exists_read_of_decode (h : Certificate.decode bytes = .ok cert) :
    ∃ content rest, Der.Element.read? bytes = some (⟨.sequence, content⟩, rest) := by
  cases hsingle : Der.single? bytes with
  | none =>
    rw [Certificate.decode, parse?_eq_none_of_single? hsingle] at h
    cases h
  | some e =>
    have hread := (Der.single?_eq_some_iff bytes e).mp hsingle
    have htag : e.tag = .sequence := by
      by_contra hother
      have hinside : e.inside? .sequence = none := by
        rw [Der.Element.inside?, Der.Element.content?, if_neg hother]
        rfl
      have hnone : parse? bytes = none := by
        rw [parse?, hsingle]
        show (e.inside? .sequence).bind _ = none
        rw [hinside]
        rfl
      rw [Certificate.decode, hnone] at h
      cases h
    obtain ⟨tag, content⟩ := e
    obtain rfl : tag = .sequence := htag
    exact ⟨content, [], hread⟩

/-- The bytes of a certificate begin with the byte that stands for a sequence. -/
theorem exists_cons_of_decode (h : Certificate.decode bytes = .ok cert) :
    ∃ rest, bytes = 0x30 :: rest := by
  obtain ⟨content, behind, hread⟩ := exists_read_of_decode h
  rw [Der.Element.read?] at hread
  obtain ⟨⟨tag, afterTag⟩, htag, hread⟩ := Option.bind_eq_some_iff.mp hread
  obtain ⟨⟨length, afterLength⟩, -, hread⟩ := Option.bind_eq_some_iff.mp hread
  have hsequence : tag = .sequence := by
    dsimp only at hread
    split at hread
    · cases hread
    · exact congrArg Der.Element.tag (Prod.mk.inj (Option.some.inj hread)).1
  cases bytes with
  | nil => cases htag
  | cons b rest =>
    rw [Der.readTag] at htag
    split at htag
    next hshort =>
      have hbyte : Der.Tag.ofByte b.toNat = .sequence :=
        (Prod.mk.inj (Option.some.inj htag)).1.trans hsequence
      obtain ⟨hform, hnumber⟩ := Der.Tag.mk.inj hbyte
      have hvalue : b.toNat = (0x30 : UInt8).toNat := by
        show b.toNat = 48
        omega
      obtain rfl : b = 0x30 := UInt8.toNat_inj.mp hvalue
      exact ⟨rest, rfl⟩
    next =>
      -- a number that takes several bytes is greater than that of any sequence
      split at htag
      · split at htag
        · cases htag
        next hbound =>
          have hlong := (Prod.mk.inj (Option.some.inj htag)).1.trans hsequence
          obtain ⟨-, hnumber⟩ := Der.Tag.mk.inj hlong
          omega
      · cases htag

/-- A file with the bytes of a certificate is not empty. -/
theorem not_all_blank_of_decode (h : Certificate.decode bytes = .ok cert) :
    bytes.all isBlankByte = false := by
  obtain ⟨rest, rfl⟩ := exists_cons_of_decode h
  rfl

/-! ### Files and sessions -/

/-- A result is a certificate with the same names. -/
def Recovers {ε : Type} (cert : Certificate) (result : Except ε Certificate) : Prop :=
  ∃ found, result = .ok found ∧ cert.certificate.SameNames found.certificate

theorem recovers_mapError {ε δ : Type} (f : ε → δ) (result : Except ε Certificate) :
    Recovers cert (result.mapError f) ↔ Recovers cert result := by
  cases result with
  | error cause => exact iff_of_false (fun ⟨_, h, _⟩ => nomatch h) fun ⟨_, h, _⟩ => nomatch h
  | ok found => simp only [Recovers, Except.mapError, Except.ok.injEq]

/-- **The form is found out rightly** unless the opening line of a block stands in the bytes and
the first block is not one with the same names. -/
theorem recovers_load_iff (hdecode : Certificate.decode bytes = .ok cert) :
    Recovers cert (Certificate.load bytes) ↔
      (pemMarker <:+: bytes → Recovers cert (Certificate.ofPem bytes)) := by
  by_cases hoccurs : pemMarker <:+: bytes
  · rw [load_of_occurs hoccurs]
    exact ⟨fun h _ => h, fun h => h hoccurs⟩
  · rw [load_of_not_occurs hoccurs]
    refine iff_of_true ?_ fun h => absurd h hoccurs
    exact ⟨cert, hdecode, .refl _⟩

/-- A file that is found is loaded by its content, unless it holds nothing but blanks. -/
theorem ofFile_of_find {folder : Storage.Folder} {path : String} {place : Storage.Place}
    (hfind : folder.find path = .ok (place, .file bytes)) :
    Certificate.ofFile folder path =
      if bytes.all isBlankByte then .error (.empty path)
      else (Certificate.load bytes).mapError .unreadable := by
  have hholds : folder.holds path = true := by
    rw [Storage.Folder.holds, hfind]
    rfl
  have hread : folder.read path = .ok bytes := by
    rw [Storage.Folder.read, hfind]
  rw [Certificate.ofFile, hholds, hread]
  rfl

/-- The bytes of a certificate are not blank. -/
theorem ofFile_of_decode (hdecode : Certificate.decode bytes = .ok cert)
    {folder : Storage.Folder} {path : String} {place : Storage.Place}
    (hfind : folder.find path = .ok (place, .file bytes)) :
    Certificate.ofFile folder path = (Certificate.load bytes).mapError .unreadable := by
  rw [ofFile_of_find hfind, not_all_blank_of_decode hdecode, if_neg Bool.false_ne_true]

/-- The verdict of a session with the bytes of a certificate is that about the certificate. -/
theorem verifyPeer_authorized_of_decode [Limits] (hdecode : Certificate.decode bytes = .ok cert)
    (policy : Policy) (host : Value) :
    (verifyPeer policy (some ⟨.ok (.bytes bytes)⟩) host).authorized =
      (verify policy (some cert.certificate) host).authorized := by
  have hbytes : bytes ≠ [] := by
    obtain ⟨rest, rfl⟩ := exists_cons_of_decode hdecode
    exact List.cons_ne_nil _ _
  exact verifyPeer_of_presents ⟨_, bytes, rfl, rfl, hbytes, hdecode⟩

/-- **A file and a session** with the bytes of one certificate.  The bytes and the file give a
certificate with the same names exactly if the form is found out rightly; and then the file and the
session decide alike about every host, under every configuration. -/
theorem file_agrees_with_session_iff [Limits] (bytes : List UInt8) (cert : Certificate)
    (hdecode : Certificate.decode bytes = .ok cert) (folder : Storage.Folder) (path : String)
    (place : Storage.Place) (hfind : folder.find path = .ok (place, .file bytes)) :
    (Recovers cert (loadValue (.bytes bytes)) ↔
      (pemMarker <:+: bytes → Recovers cert (Certificate.ofPem bytes))) ∧
    (Recovers cert (Certificate.ofFile folder path) ↔
      (pemMarker <:+: bytes → Recovers cert (Certificate.ofPem bytes))) ∧
    ((pemMarker <:+: bytes → Recovers cert (Certificate.ofPem bytes)) →
      ∃ found, Certificate.ofFile folder path = .ok found ∧ ∀ policy host,
        (verifyPeer policy (some ⟨.ok (.bytes bytes)⟩) host).authorized =
          (verify policy (some found.certificate) host).authorized) := by
  have hvalue : Recovers cert (loadValue (.bytes bytes)) ↔
      (pemMarker <:+: bytes → Recovers cert (Certificate.ofPem bytes)) := by
    rw [loadValue, recovers_mapError]
    exact recovers_load_iff hdecode
  have hfile : Recovers cert (Certificate.ofFile folder path) ↔
      (pemMarker <:+: bytes → Recovers cert (Certificate.ofPem bytes)) := by
    rw [ofFile_of_decode hdecode hfind, recovers_mapError]
    exact recovers_load_iff hdecode
  refine ⟨hvalue, hfile, fun hclear => ?_⟩
  obtain ⟨found, hfound, hsame⟩ := hfile.mpr hclear
  refine ⟨found, hfound, fun policy host => ?_⟩
  rw [verifyPeer_authorized_of_decode hdecode, Deliberation.authorized, Deliberation.authorized,
    outcome_eq_of_agrees hsame.agrees]

/-- A certificate for one DNS name, whose bytes do not hold the opening line of a block. -/
theorem file_agrees_with_session_foo_test :
    let _ : Limits := .usual
    ∃ der cert, sampleFrame.encode? ["foo.test"] none [] = some der ∧
      Certificate.decode der = .ok cert ∧ ¬pemMarker <:+: der ∧
      let folder := ({ home := "/" } : Storage.Folder).give "cert.der" (.file der)
      Recovers cert (loadValue (.bytes der)) ∧
        ∃ found, Certificate.ofFile folder "cert.der" = .ok found ∧ ∀ policy host,
          (verifyPeer policy (some ⟨.ok (.bytes der)⟩) host).authorized =
            (verify policy (some found.certificate) host).authorized := by
  intro _
  have hsome : (sampleFrame.encode? ["foo.test"] none []).isSome = true := by decide +kernel
  obtain ⟨der, hder⟩ := Option.isSome_iff_exists.mp hsome
  obtain ⟨hdecode, -⟩ := decode_encode? hder
  have habsent : occursIn pemMarker der = false := by
    have hclosed : (sampleFrame.encode? ["foo.test"] none []).map (occursIn pemMarker) =
        some false := by
      decide +kernel
    rw [hder] at hclosed
    exact Option.some.inj hclosed
  have hclear : ¬pemMarker <:+: der := by
    rw [← occursIn_iff, habsent]
    exact Bool.false_ne_true
  obtain ⟨hvalue, -, hsession⟩ := file_agrees_with_session_iff der _ hdecode
    (({ home := "/" } : Storage.Folder).give "cert.der" (.file der)) "cert.der"
    ⟨false, ["cert.der".toList]⟩ rfl
  exact ⟨der, _, hder, hdecode, hclear, hvalue.mpr fun hoccurs => absurd hoccurs hclear,
    hsession fun hoccurs => absurd hoccurs hclear⟩

/-- The bytes of a certificate whose common name is the opening line of a block.  A session with
these bytes authorizes its DNS name.  A file with these bytes cannot be loaded, since no block
stands behind the line. -/
theorem marker_as_commonName :
    let _ : Limits := .usual
    ∃ der cert,
      sampleFrame.encode? ["foo.test"] (some "-----BEGIN CERTIFICATE-----") [] = some der ∧
      Certificate.decode der = .ok cert ∧
      (verifyPeer (.ofFields []) (some ⟨.ok (.bytes der)⟩) (.text "foo.test")).authorized =
        .ok true ∧
      loadValue (.bytes der) = .error (.unreadable .malformed) ∧
      Certificate.ofFile (({ home := "/" } : Storage.Folder).give "cert.der" (.file der))
        "cert.der" = .error (.unreadable .malformed) := by
  intro _
  have hclosed : (sampleFrame.encode? ["foo.test"] (some "-----BEGIN CERTIFICATE-----") []).map
      (fun der => (occursIn pemMarker der, (Pem.blocks? der).map (·.length))) =
        some (true, some 0) := by
    decide +kernel
  cases hder : sampleFrame.encode? ["foo.test"] (some "-----BEGIN CERTIFICATE-----") [] with
  | none =>
    rw [hder] at hclosed
    cases hclosed
  | some der =>
    rw [hder] at hclosed
    obtain ⟨hoccurs, hblocks⟩ := Prod.mk.inj (Option.some.inj hclosed)
    obtain ⟨cert, hdecode, hlists⟩ := listsNames_of_encode? hder
    obtain ⟨blocks, hsome, hlength⟩ := Option.map_eq_some_iff.mp hblocks
    obtain rfl := List.length_eq_zero_iff.mp hlength
    have hload : Certificate.load der = .error .malformed := by
      rw [Certificate.load, if_pos hoccurs, Certificate.ofPem, hsome]
      rfl
    have hcovers : Host.coversValue true (.text "foo.test") (.text "foo.test") = true := by
      decide +kernel
    refine ⟨der, cert, rfl, hdecode, ?_, ?_, ?_⟩
    · rw [verifyPeer_authorized_of_decode hdecode]
      exact Certificate.authorized_iff.mpr
        ⟨_, hlists, Or.inl ⟨_, List.mem_singleton_self _, hcovers⟩⟩
    · rw [loadValue, hload]
      rfl
    · have hfind : (({ home := "/" } : Storage.Folder).give "cert.der" (.file der)).find
          "cert.der" = .ok (⟨false, ["cert.der".toList]⟩, .file der) := rfl
      rw [ofFile_of_decode hdecode hfind, hload]
      rfl

end X509

end PeerName
