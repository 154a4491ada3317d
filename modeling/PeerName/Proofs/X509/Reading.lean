import Mathlib.Data.List.Nodup
import PeerName.Proofs.Certificate.Adapter
import PeerName.Proofs.Der.Remainder
import PeerName.X509.Load

/-!
# What can be read from a certificate

A certificate is decoded from its bytes alone, and nothing may stand behind them.  Its alternative
names can be read if no identifier of an extension occurs twice, every known extension has an
admissible value, and the value of the extension with the names, if there is one, is a list of
names.  A decision about a decoded certificate is said in these terms: which names can be read, and
whether one of them covers the host.

* `Certificate.decode_append` — nothing may stand behind a certificate;
* `checkExtensions_eq_ok_iff` — when the extensions pass their checks;
* `Certificate.ListsNames`, `Certificate.listsNames_iff` — the DNS names of a certificate;
* `Certificate.LastCommonName` — the last common name of its subject;
* `Certificate.authorized_iff` — **whom a decoded certificate authorizes**.
-/

namespace PeerName.X509

/-! ### Bytes -/

theorem parse?_eq_none_of_single? {bytes : List UInt8} (h : Der.single? bytes = none) :
    parse? bytes = none := by
  rw [parse?, h]
  rfl

theorem allDistinct_iff_nodup {α : Type} [DecidableEq α] (items : List α) :
    allDistinct items = true ↔ items.Nodup := by
  induction items with
  | nil => simp [allDistinct]
  | cons a rest ih => simp [allDistinct, ih]

/-- Items pass a check one after another exactly when each of them passes it. -/
theorem forM_eq_ok_iff {α : Type} (check : α → Except Fault Unit) (items : List α) :
    items.forM check = .ok () ↔ ∀ item ∈ items, check item = .ok () := by
  induction items with
  | nil => exact iff_of_true rfl (by simp)
  | cons item items ih =>
    rw [List.forall_mem_cons, ← ih]
    show (check item >>= fun _ => items.forM check) = .ok () ↔ _
    cases hitem : check item with
    | ok => exact (and_iff_right rfl).symm
    | error cause => exact iff_of_false (fun h => nomatch h) fun h => nomatch h.1

theorem checkExtensions_eq_ok_iff (extensions : List Extension) :
    checkExtensions extensions = .ok () ↔
      (extensions.map (·.identifier)).Nodup ∧ ∀ e ∈ extensions, e.check = .ok () := by
  rw [checkExtensions, ← allDistinct_iff_nodup, ← forM_eq_ok_iff]
  by_cases hdistinct : allDistinct (extensions.map (·.identifier)) = true
  · rw [if_pos hdistinct]
    exact (and_iff_right hdistinct).symm
  · rw [if_neg hdistinct]
    exact iff_of_false (fun h => nomatch h) fun h => hdistinct h.1

theorem find?_altNames_eq_none_iff (extensions : List Extension) :
    extensions.find? (·.identifier == altNamesId) = none ↔
      ∀ e ∈ extensions, e.identifier ≠ altNamesId := by
  simp

/-- Where no identifier occurs twice, an extension is found by its identifier. -/
theorem find?_altNames_eq_some_iff {extensions : List Extension}
    (hdistinct : (extensions.map (·.identifier)).Nodup) (e : Extension) :
    extensions.find? (·.identifier == altNamesId) = some e ↔
      e ∈ extensions ∧ e.identifier = altNamesId := by
  constructor
  · intro hfind
    exact ⟨List.mem_of_find?_eq_some hfind, by simpa using List.find?_some hfind⟩
  · rintro ⟨hmem, hid⟩
    cases hfind : extensions.find? (·.identifier == altNamesId) with
    | none => exact absurd hid ((find?_altNames_eq_none_iff _).mp hfind e hmem)
    | some other =>
      have hother : other.identifier = altNamesId := by simpa using List.find?_some hfind
      have hsame : other.identifier = e.identifier := hother.trans hid.symm
      rw [List.inj_on_of_nodup_map hdistinct (List.mem_of_find?_eq_some hfind) hmem hsame]

/-- The extensions and the alternative names of a certificate can be read, and these are the DNS
names among them, in their order. -/
def Certificate.ListsNames (cert : Certificate) (names : List Value) : Prop :=
  (cert.extensions.map (·.identifier)).Nodup ∧
  (∀ e ∈ cert.extensions, e.check = .ok ()) ∧
  (((∀ e ∈ cert.extensions, e.identifier ≠ altNamesId) ∧ names = []) ∨
    ∃ e ∈ cert.extensions, e.identifier = altNamesId ∧ ∃ entries,
      readValue (generalNames? .sequence) e.value = .ok entries ∧ names = dnsNames entries)

theorem altNames?_of_check {extensions : List Extension}
    (hcheck : checkExtensions extensions = .ok ()) :
    altNames? extensions = (extensions.find? (·.identifier == altNamesId)).mapM fun e =>
      readValue (generalNames? .sequence) e.value := by
  rw [altNames?, hcheck]
  rfl

theorem altNames?_of_fault {extensions : List Extension} {cause : Fault}
    (hcheck : checkExtensions extensions = .error cause) :
    altNames? extensions = .error cause := by
  rw [altNames?, hcheck]
  rfl

/-- The look-up of the alternative names finds the names that the certificate lists. -/
theorem Certificate.listsNames_iff (cert : Certificate) (names : List Value) :
    cert.ListsNames names ↔
      ∃ found, cert.altNames? = .ok found ∧ dnsNames (found.getD []) = names := by
  rw [Certificate.ListsNames, Certificate.altNames?, ← and_assoc, ← checkExtensions_eq_ok_iff]
  cases hcheck : checkExtensions cert.extensions with
  | error cause =>
    rw [altNames?_of_fault hcheck]
    exact iff_of_false (fun h => nomatch h.1) fun ⟨_, h, _⟩ => nomatch h
  | ok =>
    have hdistinct := ((checkExtensions_eq_ok_iff _).mp hcheck).1
    rw [altNames?_of_check hcheck]
    rw [and_iff_right rfl]
    cases hfind : cert.extensions.find? (·.identifier == altNamesId) with
    | none =>
      have hnone := (find?_altNames_eq_none_iff _).mp hfind
      constructor
      · rintro (⟨-, rfl⟩ | ⟨e, hmem, hid, -⟩)
        · exact ⟨none, rfl, rfl⟩
        · exact absurd hid (hnone e hmem)
      · rintro ⟨found, hfound, rfl⟩
        obtain rfl : none = found := Except.ok.inj hfound
        exact Or.inl ⟨hnone, rfl⟩
    | some e =>
      obtain ⟨hmem, hid⟩ := (find?_altNames_eq_some_iff hdistinct e).mp hfind
      show _ ↔ ∃ found, some <$> readValue (generalNames? .sequence) e.value = .ok found ∧ _
      constructor
      · rintro (⟨hnone, -⟩ | ⟨other, hother, hotherId, entries, hread, rfl⟩)
        · exact absurd hid (hnone e hmem)
        · have hsame := (find?_altNames_eq_some_iff hdistinct other).mpr ⟨hother, hotherId⟩
          rw [hfind] at hsame
          obtain rfl := Option.some.inj hsame
          exact ⟨some entries, by rw [hread]; rfl, rfl⟩
      · rintro ⟨found, hfound, rfl⟩
        cases hread : readValue (generalNames? .sequence) e.value with
        | error cause =>
          rw [hread] at hfound
          cases hfound
        | ok entries =>
          rw [hread] at hfound
          obtain rfl : some entries = found := Except.ok.inj hfound
          exact Or.inr ⟨e, hmem, hid, entries, hread, rfl⟩

/-- A certificate lists its names in one way only. -/
theorem Certificate.ListsNames.unique {cert : Certificate} {names others : List Value}
    (h : cert.ListsNames names) (hother : cert.ListsNames others) : others = names := by
  obtain ⟨found, hfound, rfl⟩ := (cert.listsNames_iff names).mp h
  obtain ⟨other, hread, rfl⟩ := (cert.listsNames_iff others).mp hother
  rw [hfound] at hread
  obtain rfl := Except.ok.inj hread
  rfl

/-! ### The subject -/

/-- The subject of a certificate can be read, and its last common name is this text. -/
def Certificate.LastCommonName (cert : Certificate) (name : String) : Prop :=
  ∃ values, cert.commonNames = .ok values ∧ values.getLast? = some (.text name)

theorem commonNameReading_eq_text_iff (values : List Value) (name : String) :
    (commonNameReading values).outcome = .ok (.text name) ↔
      values.getLast? = some (.text name) := by
  rw [commonNameReading]
  cases values.getLast? with
  | none => exact iff_of_false (fun h => nomatch h) fun h => nomatch h
  | some last =>
    cases last with
    | text s => simp
    | _ => exact iff_of_false (fun h => nomatch h) fun h => nomatch h

theorem Certificate.lastCommonName_iff (cert : Certificate) (name : String) :
    cert.LastCommonName name ↔ cert.certificate.commonName.outcome = .ok (.text name) := by
  rw [LastCommonName, certificate]
  cases cert.commonNames with
  | error cause => exact iff_of_false (fun ⟨_, h, _⟩ => nomatch h) fun h => nomatch h
  | ok values =>
    simp only [Except.ok.injEq, exists_eq_left']
    exact (commonNameReading_eq_text_iff values name).symm

/-! ### Decisions -/

variable {policy : Policy} {cert : Certificate} {host : Value}

theorem Certificate.hasAltNames_of_fault {cause : Fault} (h : cert.altNames? = .error cause) :
    cert.certificate.hasAltNames.outcome = .error (.unreadable cause) := by
  rw [certificate, h]
  exact ofGeneralNames_fault rfl

theorem Certificate.altNames_of_found {found : Option (List GeneralName)}
    (h : cert.altNames? = .ok found) :
    cert.certificate.altNames.outcome = .ok (.list (dnsNames (found.getD []))) := by
  rw [certificate, h]
  exact ofGeneralNames_altNames rfl

theorem Certificate.claims_of_found {found : Option (List GeneralName)}
    (h : cert.altNames? = .ok found) :
    cert.certificate.Claims (!(dnsNames (found.getD [])).isEmpty) := by
  rw [certificate, h]
  exact ofGeneralNames_claims rfl

/-- What is wrong with a place of an encoded certificate is wrong with its encoding. -/
theorem Certificate.exists_of_reading_error {accessor : Accessor} {cause : PeerName.Fault}
    (h : (cert.certificate.reading accessor).outcome = .error cause) :
    ∃ fault, cause = .unreadable fault := by
  rw [Certificate.certificate] at h
  cases accessor with
  | commonName =>
    cases hcommon : cert.commonNames with
    | error fault =>
      rw [hcommon] at h
      exact ⟨fault, (Except.error.inj h).symm⟩
    | ok values =>
      -- a common name that is no text counts as none
      rw [hcommon] at h
      have hreading : (commonNameReading values).outcome = .error cause := h
      rw [commonNameReading] at hreading
      split at hreading <;> cases hreading
  | _ =>
    cases hfound : cert.altNames? with
    | error fault =>
      rw [hfound] at h
      exact ⟨fault, (Except.error.inj h).symm⟩
    | ok found =>
      rw [hfound] at h
      cases h

/-- So it can be put into words. -/
theorem Certificate.faultsWritable [Limits] (cert : Certificate) :
    cert.certificate.FaultsWritable := by
  intro place cause hread
  obtain ⟨fault, rfl⟩ := exists_of_reading_error hread
  rfl

/-- The alternative names that decide are those that the certificate lists. -/
theorem Certificate.byAltName_iff_listsNames (wildcards : Bool) :
    ByAltName wildcards cert.certificate host ↔
      ∃ names, cert.ListsNames names ∧
        ∃ name ∈ names, Host.coversValue wildcards name host = true := by
  constructor
  · rintro ⟨hclaim, names, items, hnames, hitems, hcovers⟩
    cases hfound : cert.altNames? with
    | error cause =>
      exact absurd hclaim (PeerName.Certificate.not_claims_of_error (hasAltNames_of_fault hfound))
    | ok found =>
      rw [altNames_of_found hfound] at hnames
      obtain rfl := Except.ok.inj hnames
      obtain rfl := Option.some.inj hitems
      exact ⟨_, (cert.listsNames_iff _).mpr ⟨found, hfound, rfl⟩, hcovers⟩
  · rintro ⟨names, hlists, name, hmem, hcovers⟩
    obtain ⟨found, hfound, rfl⟩ := (cert.listsNames_iff _).mp hlists
    have hclaim := claims_of_found hfound
    rw [List.isEmpty_eq_false_iff.mpr (List.ne_nil_of_mem hmem)] at hclaim
    exact ⟨hclaim, _, _, altNames_of_found hfound, rfl, name, hmem, hcovers⟩

/-- A certificate claims to have no alternative names exactly when it lists none. -/
theorem Certificate.claims_false_iff_listsNames :
    cert.certificate.Claims false ↔ cert.ListsNames [] := by
  rw [listsNames_iff]
  constructor
  · intro hfalse
    cases hfound : cert.altNames? with
    | error cause =>
      exact absurd hfalse (PeerName.Certificate.not_claims_of_error (hasAltNames_of_fault hfound))
    | ok found =>
      have hclaim := claims_of_found hfound
      cases hempty : (dnsNames (found.getD [])).isEmpty with
      | true => exact ⟨found, rfl, List.isEmpty_iff.mp hempty⟩
      | false =>
        rw [hempty] at hclaim
        exact absurd hfalse (PeerName.Certificate.not_claims_both hclaim)
  · rintro ⟨found, hfound, hnil⟩
    have hclaim := claims_of_found hfound
    rwa [hnil] at hclaim

/-- **Whom a decoded certificate authorizes**: the hosts that one of the DNS names it lists covers;
or, if it lists none and the policy admits the common name, the hosts that the last common name of
its subject covers.  In both cases its alternative names can be read. -/
theorem Certificate.authorized_iff [Limits] :
    (verify policy (some cert.certificate) host).authorized = .ok true ↔
      ∃ names, cert.ListsNames names ∧
        ((∃ name ∈ names, Host.coversValue policy.wildcards name host = true) ∨
          (names = [] ∧ policy.commonNameFallback = true ∧ ∃ name, cert.LastCommonName name ∧
            Host.coversValue policy.wildcards (.text name) host = true)) := by
  rw [PeerName.authorized_iff, byAltName_iff_listsNames]
  constructor
  · rintro (⟨names, hlists, hcovers⟩ | ⟨name, hclaim, hadmitted, hname, hcovers⟩)
    · exact ⟨names, hlists, Or.inl hcovers⟩
    · exact ⟨[], claims_false_iff_listsNames.mp hclaim,
        Or.inr ⟨rfl, hadmitted, name, (cert.lastCommonName_iff name).mpr hname, hcovers⟩⟩
  · rintro ⟨names, hlists, hcovers | ⟨rfl, hadmitted, name, hname, hcovers⟩⟩
    · exact Or.inl ⟨names, hlists, hcovers⟩
    · exact Or.inr ⟨name, claims_false_iff_listsNames.mpr hlists, hadmitted,
        (cert.lastCommonName_iff name).mp hname, hcovers⟩

end PeerName.X509
