import PeerName.Journal.Event
import PeerName.Proofs.Journal.Calendar
import PeerName.Proofs.Journal.Entry

/-!
# Events that are read back

An event without values for its message is written for machines whatever its message says: a message
without values is no template.  What is written is one line of printable ASCII, and it is read as
the values of the event again.  A line can be missing for two reasons only: there is no date for
the time of the event, or something in it cannot be written, a number with too many digits or
lists within lists for which there is no room.

* `Dated`, `Event.exists_timestamp_iff` — the times that have a date;
* `Event.Fits` — the events that can be written;
* `Event.entryAt`, `Event.text_of_timestamp` — the entry of an event without values for its
  message;
* `Event.text_reads_back` — **an event is written on one line and read back**;
* `Event.text_ladenEvent` — events that cannot be written.
-/

namespace PeerName.Journal

/-- A value gives a time that has a date: one from the second day of the year 1 to the last day of
the year 9999. -/
def Dated (created : Value) : Prop :=
  ∃ moment, Moment.ofValue created = .ok moment ∧
    -62135510400 ≤ moment.seconds ∧ moment.seconds ≤ 253402300799

namespace Event

variable {e : Event}

/-- The values of an event, apart from its time and its message, have JSON forms of their own. -/
structure Plain (e : Event) : Prop where
  level : e.level.Plain
  logger : e.logger.Plain
  unit : e.unit.Plain
  function : e.function.Plain
  line : e.line.Plain
  thread : e.thread.Plain
  process : e.process.Plain
  extra : ∀ v, e.extra = some v → v.Plain

theorem Plain.extra_getD (h : e.Plain) : (e.extra.getD .null).Plain := by
  cases hextra : e.extra with
  | none => exact .null
  | some v => exact h.extra v hextra

/-- An event has a timestamp exactly if its time has a date. -/
theorem exists_timestamp_iff (e : Event) :
    (∃ s, e.timestamp = .ok s) ↔ Dated e.created := by
  rw [timestamp, Dated]
  cases hmoment : Moment.ofValue e.created with
  | error cause => exact iff_of_false (fun ⟨_, h⟩ => nomatch h) fun ⟨_, h, _⟩ => nomatch h
  | ok moment =>
    show (∃ s, moment.text = .ok s) ↔ _
    rw [Moment.exists_text_iff]
    simp

/-- The entry of an event at a date, with its message taken as it is. -/
def entryAt (e : Event) (date : String) : Entry where
  timestamp := date
  level := e.level
  logger := e.logger
  message := Text.codePoints e.message.plain.toList
  unit := e.unit
  function := e.function
  line := e.line
  thread := e.thread
  process := e.process
  extra := e.extra.getD .null
  incident := e.incident

/-- The values of an event that are written as they are. -/
def values (e : Event) : List Value :=
  [e.level, e.logger, e.unit, e.function, e.line, e.thread, e.process, e.extra.getD .null]

section Limits

variable [Limits]

/-- An event can be written: its message can be shown, and each of its values can be written. -/
structure Fits (e : Event) : Prop where
  message : Desk.message.hindrance? [e.message] = none
  values : ∀ v ∈ e.values, Json.Writable v

/-- An event without values for its message has the text of this entry, if there is one. -/
theorem text_of_timestamp (harguments : e.arguments = [])
    (hmessage : Desk.message.hindrance? [e.message] = none) {date : String}
    (hdate : e.timestamp = .ok date) :
    e.text = (e.entryAt date).text.mapError .unwritable := by
  rw [text, entry, hdate, harguments, Desk.write, hmessage]
  rfl

/-- A message that cannot be shown is not written. -/
theorem text_of_hindrance {hindrance : Mismatch}
    (hmessage : Desk.message.hindrance? [e.message] = some hindrance) {date : String}
    (hdate : e.timestamp = .ok date) : e.text = .error (.unwritable hindrance) := by
  rw [text, entry, hdate, Desk.write, hmessage]
  rfl

/-- What does not fit is not written. -/
theorem text_of_not_fits (harguments : e.arguments = []) (hfits : ¬e.Fits) {date : String}
    (hdate : e.timestamp = .ok date) : ∃ hindrance, e.text = .error (.unwritable hindrance) := by
  cases hmessage : Desk.message.hindrance? [e.message] with
  | some hindrance => exact ⟨hindrance, text_of_hindrance hmessage hdate⟩
  | none =>
    cases hvalues : Json.hindrance? (e.entryAt date).values with
    | none => exact absurd ⟨hmessage, (Json.hindrance?_eq_none_iff _).mp hvalues⟩ hfits
    | some hindrance =>
      refine ⟨hindrance, ?_⟩
      rw [text_of_timestamp harguments hmessage hdate,
        (Entry.text_eq_error_iff hindrance).mpr hvalues]
      rfl

/-- Without a date there is no text. -/
theorem text_of_undated {cause : ClockFault} (hcause : e.timestamp = .error cause) :
    e.text = .error (.clock cause) := by
  rw [text, entry, hcause]
  rfl

end Limits

theorem Plain.entryAt (h : e.Plain) (date : String) : (e.entryAt date).Plain where
  level := h.level
  logger := h.logger
  unit := h.unit
  function := h.function
  line := h.line
  thread := h.thread
  process := h.process
  extra := h.extra_getD

/-- **An event is written on one line and read back.**  It has no values for its message and
reports no error; its other values, and what it carries for machines, have JSON forms of their own.
If its time has a date and it can be written, it is written in printable ASCII, and read as an
object of eleven values in their order: the date, the values as they were, null for what it does
not carry, and null for the error.  If its time has a date and it cannot be written, there is no
text, and the report is that of the writer.  If its time has no date, there is no text either, and
the report is that of the clock. -/
theorem text_reads_back [Limits] (e : Event) (h : e.Plain) (harguments : e.arguments = [])
    (hincident : e.incident = none) :
    (Dated e.created → e.Fits → ∃ date text, e.timestamp = .ok date ∧ e.text = .ok text ∧
      (∀ c ∈ text.toList, 0x20 ≤ c.toNat ∧ c.toNat ≤ 0x7e) ∧
      Json.decode? text = some (.record
        [("timestamp", .text date),
         ("level", e.level),
         ("logger_name", e.logger),
         ("message", .text e.message.plain),
         ("module", e.unit),
         ("function", e.function),
         ("line_number", e.line),
         ("thread_id", e.thread),
         ("process_id", e.process),
         ("extra_data", e.extra.getD .null),
         ("exception_info", .null)])) ∧
    (Dated e.created → ¬e.Fits → ∃ hindrance, e.text = .error (.unwritable hindrance)) ∧
    (¬Dated e.created → ∃ cause, e.timestamp = .error cause ∧ e.text = .error (.clock cause)) := by
  refine ⟨?_, ?_, ?_⟩
  · intro hdated hfits
    obtain ⟨date, hdate⟩ := e.exists_timestamp_iff.mpr hdated
    have hmessage : (e.entryAt date).message = Text.codePoints e.message.plain.toList := rfl
    have hexception : (e.entryAt date).exception = .null := Entry.exception_of_none hincident
    obtain ⟨text, htext⟩ : ∃ text, (e.entryAt date).text = .ok text :=
      ⟨_, (Entry.text_eq_ok_iff hmessage _).mpr ⟨hfits.values, rfl⟩⟩
    have hread := Entry.decode?_text (h.entryAt date) hmessage htext
    rw [Entry.members, hexception] at hread
    refine ⟨date, text, hdate, ?_, Entry.printable_text (h.entryAt date) hmessage htext, hread⟩
    rw [text_of_timestamp harguments hfits.message hdate, htext]
    rfl
  · intro hdated hfits
    obtain ⟨date, hdate⟩ := e.exists_timestamp_iff.mpr hdated
    exact text_of_not_fits harguments hfits hdate
  · intro hundated
    cases hdate : e.timestamp with
    | error cause => exact ⟨cause, rfl, text_of_undated hdate⟩
    | ok date => exact absurd (e.exists_timestamp_iff.mp ⟨date, hdate⟩) hundated

/-- An event with characters of every kind of escape, and with nested values for machines. -/
def sampleEvent : Event where
  created := .int 1700000000
  level := .text "WARNING"
  logger := .text "audit.\"main\""
  message := .text "100%s \\ \" \n \t \u007f é 中 😀"
  unit := .text "main"
  function := .null
  line := .int 42
  thread := .int 140000000000000
  process := .int 7
  extra := some
    (.record [("host", .text "\u0000"), ("names", .list [.null, .bool true, .int (-5)])])

theorem plain_sampleEvent : sampleEvent.Plain where
  level := .text _
  logger := .text _
  unit := .text _
  function := .null
  line := .int _
  thread := .int _
  process := .int _
  extra := by
    intro v hv
    rw [← Option.some.inj hv]
    apply Value.Plain.record (by decide)
    simp only [List.forall_mem_cons]
    refine ⟨.text _, .list ?_, fun f hf => nomatch hf⟩
    simp only [List.forall_mem_cons]
    exact ⟨.null, .bool _, .int _, fun v hv => nomatch hv⟩

/-- The sample is written on one line and read back. -/
theorem text_reads_back_sample :
    let _ : Limits := .usual
    ∃ date text, sampleEvent.timestamp = .ok date ∧ sampleEvent.text = .ok text ∧
      (∀ c ∈ text.toList, 0x20 ≤ c.toNat ∧ c.toNat ≤ 0x7e) ∧
      Json.decode? text = some (.record
        [("timestamp", .text date),
         ("level", .text "WARNING"),
         ("logger_name", .text "audit.\"main\""),
         ("message", .text "100%s \\ \" \n \t \u007f é 中 😀"),
         ("module", .text "main"),
         ("function", .null),
         ("line_number", .int 42),
         ("thread_id", .int 140000000000000),
         ("process_id", .int 7),
         ("extra_data",
          .record [("host", .text "\u0000"), ("names", .list [.null, .bool true, .int (-5)])]),
         ("exception_info", .null)]) := by
  intro _
  have hfits : sampleEvent.Fits := by
    refine ⟨Desk.hindrance?_text _ _ _, fun v hv => ⟨?_, fun n hn => ?_⟩⟩
    · have hrooms : ∀ v ∈ sampleEvent.values, v.calls Json.copying ≤ 980 := by decide
      exact hrooms v hv
    · have hnumbers : ∀ v ∈ sampleEvent.values, ∀ n ∈ v.numbers, n.natAbs < 10 ^ 15 := by decide
      exact Nat.lt_of_lt_of_le (hnumbers v hv n hn)
        (Nat.pow_le_pow_right (by decide) (show 15 ≤ 4300 by decide))
  exact (text_reads_back sampleEvent plain_sampleEvent rfl rfl).1 ⟨_, rfl, by decide, by decide⟩
    hfits

/-- The sample with one value for machines. -/
def ladenEvent (v : Value) : Event := { sampleEvent with extra := some (.record [("n", v)]) }

theorem plain_ladenEvent {v : Value} (hv : v.Plain) : (ladenEvent v).Plain :=
  { plain_sampleEvent with
    extra := by
      intro other hother
      rw [← Option.some.inj hother]
      apply Value.Plain.record (by show ["n"].Nodup; decide)
      exact List.forall_mem_singleton.mpr hv }

theorem plain_nested (n : Nat) : (Value.nested n).Plain := by
  induction n with
  | zero => exact .null
  | succ n ih => exact .list (List.forall_mem_singleton.mpr ih)

theorem exists_text_ladenEvent [Limits] {v : Value} (hv : ¬Json.Writable v) :
    ∃ hindrance, (ladenEvent v).text = .error (.unwritable hindrance) := by
  have hfits : ¬(ladenEvent v).Fits := by
    intro hfits
    have hextra := hfits.values (.record [("n", v)]) (by simp [values, ladenEvent])
    exact hv hextra.of_singleton
  obtain ⟨date, hdate⟩ := (ladenEvent v).exists_timestamp_iff.mpr ⟨_, rfl, by decide, by decide⟩
  exact text_of_not_fits rfl hfits hdate

/-- **Values that cannot be written**: a long number, and lists deep within one another.  The event
is dated, has no values for its message and reports no error, and still there is no line of it. -/
theorem text_ladenEvent :
    let _ : Limits := .usual
    ∀ v ∈ [powerOfTen 5000, Value.nested 600],
      (ladenEvent v).Plain ∧ (ladenEvent v).arguments = [] ∧ (ladenEvent v).incident = none ∧
        Dated (ladenEvent v).created ∧
        ∃ hindrance, (ladenEvent v).text = .error (.unwritable hindrance) := by
  intro _ v hv
  have hplain : v.Plain ∧ ¬Json.Writable v := by
    rcases List.mem_cons.mp hv with rfl | hv
    · exact ⟨.int _, Json.not_writable_powerOfTen (show 4300 ≤ 5000 by decide)⟩
    · obtain rfl := List.mem_singleton.mp hv
      exact ⟨plain_nested 600, Json.not_writable_nested (show 980 < 2 * 600 + 3 by decide)⟩
  exact ⟨plain_ladenEvent hplain.1, rfl, rfl, ⟨_, rfl, by decide, by decide⟩,
    exists_text_ladenEvent hplain.2⟩

end Event

end PeerName.Journal
