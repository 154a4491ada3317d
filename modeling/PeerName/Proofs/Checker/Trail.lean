import Mathlib.Data.List.Forall2
import PeerName.Checker
import PeerName.Proofs.Journal.Footprint
import PeerName.Proofs.Verification.Law

/-!
# What a checker does

A checker that has started has set up the journal by the settings that it has ended up with, and
takes its policy from them.  Where every host can be written out, and every fault of the certificate
put into words, checking comes to the decisions about the hosts in order, whatever the journal is,
and writes the records of one decision after those of another.

* `Checker.start_eq_ok`, `Checker.start_eq_error` — a checker that has started, and one that has
  not;
* `Checker.trail` — the records of decisions about hosts;
* `Checker.Settles`, `Checker.exists_settles` — there is a decision about every host;
* `checkHosts_eq`, `check_eq` — **all that is left of a check is its trail**, and the decisions.
-/

namespace PeerName

open Journal (Origin Record)

/-! ### The start -/

section Start

variable [Limits] {o : Nat → Origin} {c checker : Checker} {site ready : Site}
  {overrides : List (String × Value)}

/-- The site when the settings have been read. -/
def Checker.loaded (o : Nat → Origin) (c : Checker) (site : Site) : Site :=
  site.emitAll o (c.baseSettings site.folder).2

/-- **A checker that has started** has logged what it came upon in its settings file, and has set up
the journal.  Its policy is that of its settings. -/
theorem Checker.start_eq_ok (h : c.start o site overrides = (checker, ready, .ok ())) :
    ∃ base s, (c.baseSettings site.folder).1 = .ok base ∧
      Checker.override base overrides = .ok s ∧
      checker.settings = some s ∧ checker.policy = some s.policy ∧
      (c.loaded o site).setUp (o (c.loaded o site).count) s = (ready, .ok ()) := by
  rw [start] at h
  rw [loaded]
  split at h
  · cases h
  generalize c.baseSettings site.folder = loaded at h ⊢
  obtain ⟨base, log⟩ := loaded
  dsimp only at h ⊢
  cases base with
  | error cause => cases h
  | ok base =>
    dsimp only [Except.bind] at h
    cases hoverride : Checker.override base overrides with
    | error cause =>
      rw [hoverride] at h
      cases h
    | ok s =>
      rw [hoverride] at h
      dsimp only at h
      cases hsetUp : (site.emitAll o log).setUp (o (site.emitAll o log).count) s with
      | mk after made =>
        rw [hsetUp] at h
        cases made with
        | error cause => cases h
        | ok _ =>
          obtain ⟨rfl, hready⟩ := Prod.mk.inj h
          obtain ⟨rfl, -⟩ := Prod.mk.inj hready
          exact ⟨base, s, rfl, hoverride, rfl, rfl, hsetUp⟩

/-- **A checker that has not started** was given a reserved name, could not load its settings, was
given overrides that are no settings, or could not set up the journal. -/
theorem Checker.start_eq_error {cause : StartFault}
    (h : (c.start o site overrides).2.2 = .error cause) :
    overrides.any (·.1 == "self") = true ∧ cause = .reserved ∨
      (c.baseSettings site.folder).1 = .error cause ∨
      ∃ base, (c.baseSettings site.folder).1 = .ok base ∧
        (Checker.override base overrides = .error cause ∨
          ∃ s ready fault, Checker.override base overrides = .ok s ∧
            (c.loaded o site).setUp (o (c.loaded o site).count) s = (ready, .error fault) ∧
            cause = .storage fault) := by
  rw [start] at h
  rw [loaded]
  split at h
  next hreserved => exact Or.inl ⟨hreserved, (Except.error.inj h).symm⟩
  next =>
  apply Or.inr
  generalize c.baseSettings site.folder = loaded at h ⊢
  obtain ⟨base, log⟩ := loaded
  dsimp only at h ⊢
  cases base with
  | error fault => exact Or.inl (congrArg Except.error (Except.error.inj h))
  | ok base =>
    refine Or.inr ⟨base, rfl, ?_⟩
    dsimp only [Except.bind] at h
    cases hoverride : Checker.override base overrides with
    | error fault =>
      rw [hoverride] at h
      exact Or.inl (congrArg Except.error (Except.error.inj h))
    | ok s =>
      rw [hoverride] at h
      dsimp only at h
      cases hsetUp : (site.emitAll o log).setUp (o (site.emitAll o log).count) s with
      | mk after made =>
        rw [hsetUp] at h
        cases made with
        | ok _ => cases h
        | error fault =>
          exact Or.inr ⟨s, after, fault, rfl, hsetUp, (Except.error.inj h).symm⟩

end Start

/-! ### Decisions about hosts -/

section Hosts

variable [Limits]

/-- The records of a deliberation: those that it has logged, then that of its decision. -/
def Checker.recordsOf (heard : Deliberation) : List Record :=
  heard.log ++ (heard.outcome.toOption.map decisionRecord).toList

/-- The records of decisions about hosts. -/
def Checker.trail (policy : Policy) (cert : Option Certificate) (hosts : List Value) :
    List Record :=
  hosts.flatMap fun host => recordsOf (verify policy cert host)

theorem Checker.trail_cons (policy : Policy) (cert : Option Certificate) (host : Value)
    (rest : List Value) :
    trail policy cert (host :: rest) =
      recordsOf (verify policy cert host) ++ trail policy cert rest :=
  List.flatMap_cons

/-- There is a decision about each host, and the host can be written out. -/
def Checker.Settles (policy : Policy) (cert : Option Certificate) (hosts : List Value)
    (ds : List Decision) : Prop :=
  List.Forall₂ (fun host d =>
    (verify policy cert host).outcome = .ok d ∧ Desk.summary.hindrance? [host] = none) hosts ds

variable (o : Nat → Origin) (policy : Policy) (cert : Option Certificate)

theorem checkHost_eq (site : Site) {host : Value} {d : Decision}
    (houtcome : (verify policy cert host).outcome = .ok d)
    (hhost : Desk.summary.hindrance? [host] = none) :
    Checker.checkHost o policy cert site host =
      (site.emitAll o (Checker.recordsOf (verify policy cert host)), .ok d) := by
  obtain rfl : d.host = host := verify_host houtcome
  rw [Checker.checkHost, Checker.recordsOf, houtcome]
  dsimp only
  rw [hhost, Site.emitAll_append]
  rfl

/-- **The decisions about hosts in order**, whatever the journal is; all that is left of them is
their trail. -/
theorem checkHosts_eq (site : Site) {hosts : List Value} {ds : List Decision}
    (h : Checker.Settles policy cert hosts ds) :
    Checker.checkHosts o policy cert site hosts =
      (site.emitAll o (Checker.trail policy cert hosts), .ok ds) := by
  induction h generalizing site with
  | nil => rfl
  | @cons host d rest ds hd hrest ih =>
    rw [Checker.checkHosts, checkHost_eq o policy cert site hd.1 hd.2]
    dsimp only
    rw [ih, Checker.trail_cons, Site.emitAll_append]
    rfl

/-- **All that is left of a check is its trail**, and its decisions. -/
theorem check_eq {checker : Checker} (hpolicy : checker.policy = some policy) (site : Site)
    {hosts : List Value} {ds : List Decision} (h : Checker.Settles policy cert hosts ds) :
    checker.check o site cert hosts =
      (site.emitAll o (Checker.trail policy cert hosts), .ok ds) := by
  unfold Checker.check
  rw [hpolicy]
  exact checkHosts_eq o policy cert site h

/-- There are decisions about texts, if every fault of the certificate can be put into words. -/
theorem Checker.exists_settles {hosts : List Value}
    (hhosts : ∀ host ∈ hosts, ∀ desk : Desk, desk.hindrance? [host] = none)
    (hcert : ∀ c, cert = some c → c.FaultsWritable) : ∃ ds, Settles policy cert hosts ds := by
  induction hosts with
  | nil => exact ⟨[], .nil⟩
  | cons host rest ih =>
    have hfirst := hhosts host List.mem_cons_self
    obtain ⟨ds, hds⟩ := ih fun other hother => hhosts other (List.mem_cons_of_mem host hother)
    obtain ⟨d, hd⟩ := exists_decision (hfirst .verifier) hcert
    exact ⟨d :: ds, .cons ⟨hd, hfirst .summary⟩ hds⟩

end Hosts

end PeerName
