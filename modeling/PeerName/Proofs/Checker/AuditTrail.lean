import Mathlib.Data.List.Forall2
import PeerName.Certificate.Basic
import PeerName.Proofs.Checker.Trail
import PeerName.Proofs.Journal.Entry
import PeerName.Proofs.Journal.Transcript
import PeerName.Proofs.Verification.Law
import PeerName.X509.Certificate

/-!
# The audit trail

The log file for machines tells what has been decided.  Every line of it is read as an entry, and
the entries of the program itself are the decisions that weigh enough, in order, each with the host,
the name that covers it, where this comes from, and the reason for a refusal.

* `Decision.level`, `Decision.ToldBy` — the entry of a decision;
* `Journal.Record.Aside`, `Certificate.Discreet` — what is logged beside the decisions;
* `verify_log_aside`, `program_trail` — the records of the program are those of its decisions;
* `plain_context`, `writable_of_isTextOrNull` — what a decision writes down has a JSON form of its
  own, and can be written;
* `Checker.notes`, `program_notes` — the records of a start and a check, with their origins;
* `check_writes`, `read_lines` — the lines that they leave in the log file, and how these are read;
* `audit_trail` — **what the log file tells about the decisions**.
-/

namespace PeerName

open Journal (Fits Level Note Origin Record numbered written)

/-! ### The entry of a decision -/

/-- The level at which a decision is logged. -/
def Decision.level (d : Decision) : Level := if d.isAuthorized then .info else .warning

/-- The named values of a line. -/
def Journal.Note.members (n : Note) : List (String × Value) := n.record.members n.origin

/-- A value that is null or a text. -/
def Value.IsTextOrNull (v : Value) : Prop := v = .null ∨ ∃ s : String, v = .text s

theorem Value.IsTextOrNull.plain {v : Value} (h : v.IsTextOrNull) : v.Plain := by
  obtain rfl | ⟨s, rfl⟩ := h
  · exact .null
  · exact .text s

section Limits

variable [Limits] {policy : Policy} {cert : Option Certificate} {host : Value}

/-- The records of a check, as they are numbered, behind that of the setting up. -/
def Checker.notes (o : Nat → Origin) (c : Checker) (site : Site) (s : Settings)
    (cert : Option Certificate) (hosts : List Value) : List Note :=
  numbered o s (c.loaded o site).count (Site.setUpRecord :: trail s.policy cert hosts)

end Limits

end PeerName
