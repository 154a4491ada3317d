import PeerName.Journal.Calendar
import PeerName.Journal.Entry
import PeerName.Value.Template

/-!
# Events

An event is what a log hands to a formatter: what happened, when and where, with values of any
kind.  Its message is a template if there are values to fill it with.  For machines it becomes an
entry, unless there is no date for its time, or its template cannot be filled, or one of its values
cannot be written.

* `Event` — an event;
* `Event.entry` — the entry of an event;
* `Event.text` — its JSON text;
* `EventFault` — why there is none.
-/

namespace PeerName.Journal

/-- Why an event has no entry. -/
inductive EventFault where
  /-- There is no date for its time. -/
  | clock (cause : ClockFault)
  /-- Its message cannot be filled. -/
  | template (cause : Template.Fault)
  /-- One of its values cannot be written. -/
  | unwritable (cause : Mismatch)
  deriving DecidableEq

/-- The report of a fault. -/
def EventFault.message : EventFault → String
  | clock cause => cause.message
  | template cause => cause.message
  | unwritable cause => cause.message

/-- An event. -/
structure Event where
  /-- The seconds since the beginning of 1970. -/
  created : Value
  /-- The name of the level. -/
  level : Value
  /-- The name of the reporting part of the program. -/
  logger : Value
  message : Value
  /-- The values for the directives of the message. -/
  arguments : List Value := []
  /-- The part of the program. -/
  unit : Value
  function : Value
  line : Value
  thread : Value
  process : Value
  extra : Option Value := none
  incident : Option Incident := none

/-- Date and time of an event. -/
def Event.timestamp (e : Event) : Except ClockFault String := do
  let moment ← Moment.ofValue e.created
  moment.text

section Limits

variable [Limits]

/-- The entry of an event. -/
def Event.entry (e : Event) : Except EventFault Entry := do
  let timestamp ← e.timestamp.mapError .clock
  let template ← (Desk.message.write [e.message] e.message.plain).mapError .unwritable
  let message ← (Template.fillWith template e.arguments).mapError .template
  return {
    timestamp, level := e.level, logger := e.logger, message, unit := e.unit,
    function := e.function, line := e.line, thread := e.thread, process := e.process,
    extra := e.extra.getD .null, incident := e.incident }

/-- The JSON text of an event. -/
def Event.text (e : Event) : Except EventFault String := do
  let entry ← e.entry
  entry.text.mapError .unwritable

end Limits

end PeerName.Journal
