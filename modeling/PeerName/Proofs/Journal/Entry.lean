import PeerName.Journal.Entry
import PeerName.Proofs.Json.RoundTrip
import PeerName.Proofs.Value.Obstacle

/-!
# Entries that are read back

A line for machines is the JSON text of a record of eleven named values.  It is printable ASCII, so
there is no line end inside, whatever characters the record holds; and it is read as these values
again.  There is such a line exactly if each value can be written.

* `Json.Writable`, `Json.hindrance?_eq_none_iff` — the values that can be written;
* `Json.not_writable_powerOfTen`, `Json.not_writable_nested` — values that cannot;
* `Journal.Entry.members`, `Journal.Record.members` — the named values of a line;
* `Journal.Entry.text_eq_ok_iff` — the text of an entry is that of its values;
* `Journal.Entry.decode?_text`, `Journal.Entry.printable_text` — **an entry is read back**, and is
  printable;
* `Journal.exists_jsonLine_iff` — when there is a line;
* `Journal.decode?_jsonLine` — **a line is read back**;
* `Journal.newline_notMem_jsonLine` — **a line is one line**.
-/

namespace PeerName

namespace Json

/-- The named values of a record are written one after another. -/
theorem encodeFields_eq (fields : List (String × Value)) :
    encodeFields fields = List.intercalate [',', ' ']
      (fields.map fun f => encodeText f.1.toList ++ ':' :: ' ' :: encodeChars f.2) := by
  induction fields with
  | nil => rfl
  | cons f fields ih =>
    cases fields with
    | nil =>
      rw [List.map_singleton, List.intercalate_singleton]
      rfl
    | cons g fields =>
      rw [encodeFields_cons, ih]
      simp only [List.map_cons, List.intercalate_cons_cons, List.append_assoc, List.cons_append,
        List.nil_append]

/-- An object of values that are written already is the record of these values. -/
theorem encodeObject_eq (fields : List (String × Value)) :
    encodeObject (fields.map fun f => (f.1, encodeChars f.2)) = encodeChars (.record fields) := by
  rw [encodeObject, encodeChars, encodeFields_eq, List.map_map]
  rfl

/-! ### Values that can be written -/

section Limits

variable [Limits] {v : Value}

/-- A value can be written in an entry: there is room for all its layers, and none of its numbers
has too many digits. -/
structure Writable (v : Value) : Prop where
  room : v.calls copying ≤ Limits.room .entry
  numbers : ∀ n ∈ v.numbers, n.natAbs < 10 ^ Limits.digits

/-- Where there is room for copying a value, there is room for writing it. -/
theorem writable_iff (v : Value) :
    Writable v ↔ v.obstacle? copying (Limits.room .entry) = none ∧
      v.obstacle? encoding (Limits.room .entry) = none := by
  have hcalls : v.calls encoding ≤ v.calls copying :=
    Value.calls_le_calls (Nat.zero_le 3) (show 1 ≤ 2 by decide) v
  have hexcess (n : Int) : encoding.excess? n = none ↔ n.natAbs < 10 ^ Limits.digits :=
    Pass.excess?_eq_none_iff rfl n
  simp only [Value.obstacle?_eq_none_iff, hexcess]
  constructor
  · rintro ⟨hroom, hnumbers⟩
    exact ⟨⟨hroom, fun n _ => rfl⟩, Nat.le_trans hcalls hroom, hnumbers⟩
  · rintro ⟨⟨hroom, -⟩, -, hnumbers⟩
    exact ⟨hroom, hnumbers⟩

/-- **Nothing keeps values from being written** exactly if each of them can be written. -/
theorem hindrance?_eq_none_iff (values : List Value) :
    hindrance? values = none ↔ ∀ v ∈ values, Writable v := by
  rw [hindrance?, Option.or_eq_none_iff, Value.itemsObstacle?_eq_none_iff_forall,
    Value.itemsObstacle?_eq_none_iff_forall]
  simp only [writable_iff]
  exact ⟨fun h v hv => ⟨h.1 v hv, h.2 v hv⟩, fun h => ⟨fun v hv => (h v hv).1, fun v hv =>
    (h v hv).2⟩⟩

/-- There is room for what takes no more calls than the program has to write itself. -/
theorem writable_of_calls (hcalls : v.calls copying ≤ 8) (hnumbers : v.numbers = []) :
    Writable v where
  room := Nat.le_trans hcalls (Limits.ample .entry)
  numbers := by
    rw [hnumbers]
    exact List.forall_mem_nil _

theorem Writable.text (s : String) : Writable (.text s) :=
  writable_of_calls (show 3 ≤ 8 by decide) rfl

theorem Writable.null : Writable .null :=
  writable_of_calls (show 3 ≤ 8 by decide) rfl

theorem writable_int_iff (n : Int) : Writable (.int n) ↔ n.natAbs < 10 ^ Limits.digits := by
  constructor
  · intro h
    exact h.numbers n List.mem_cons_self
  · intro h
    have hroom : (Value.int n).calls copying ≤ 8 := show 3 ≤ 8 by decide
    exact ⟨Nat.le_trans hroom (Limits.ample .entry), List.forall_mem_singleton.mpr h⟩

/-- A record with one value can be written only if the value can. -/
theorem Writable.of_singleton {name : String} (h : Writable (.record [(name, v)])) :
    Writable v where
  room := by
    have hroom := h.room
    rw [Value.calls, Value.fieldsCalls, Value.fieldsCalls] at hroom
    omega
  numbers := fun n hn => h.numbers n (List.mem_append_left _ hn)

/-- A power of ten with too many digits cannot be written. -/
theorem not_writable_powerOfTen {k : Nat} (h : Limits.digits ≤ k) : ¬Writable (powerOfTen k) :=
  fun hwritable => Nat.not_lt.mpr (long_pow h) ((writable_int_iff _).mp hwritable)

/-- Lists too deep within one another cannot be written: each takes two calls. -/
theorem not_writable_nested {n : Nat} (h : Limits.room .entry < 2 * n + 3) :
    ¬Writable (Value.nested n) := fun hwritable => by
  have hroom := hwritable.room
  rw [Value.calls_nested] at hroom
  exact Nat.not_le.mpr h hroom

end Limits

end Json

namespace Journal

/-! ### Entries -/

theorem Incident.plain_value (i : Incident) : i.value.Plain := by
  have htrace : (Value.list [.text (i.text ++ "\n")]).Plain := by
    apply Value.Plain.list
    intro v hv
    rw [List.mem_singleton.mp hv]
    exact .text _
  cases i with
  | unknown =>
    apply Value.Plain.record (by decide)
    simp only [List.forall_mem_cons]
    exact ⟨.null, .null, htrace, fun f hf => nomatch hf⟩
  | raised kind message =>
    apply Value.Plain.record (by show ["type", "message", "traceback"].Nodup; decide)
    simp only [List.forall_mem_cons]
    exact ⟨.text kind, .text message, htrace, fun f hf => nomatch hf⟩

namespace Entry

variable {e : Entry} {message : String}

/-- The error that an entry reports, as a value. -/
def exception (e : Entry) : Value :=
  match e.incident with
  | none => .null
  | some i => i.value

theorem exception_of_none (h : e.incident = none) : e.exception = .null := by
  rw [exception, h]

/-- The named values of an entry with this message. -/
def members (e : Entry) (message : String) : List (String × Value) :=
  [("timestamp", .text e.timestamp),
   ("level", e.level),
   ("logger_name", e.logger),
   ("message", .text message),
   ("module", e.unit),
   ("function", e.function),
   ("line_number", e.line),
   ("thread_id", e.thread),
   ("process_id", e.process),
   ("extra_data", e.extra),
   ("exception_info", e.exception)]

/-- **The text of an entry is the JSON text of its values**, if each of them can be written. -/
theorem text_eq_ok_iff [Limits] (hmessage : e.message = Text.codePoints message.toList)
    (s : String) :
    e.text = .ok s ↔
      (∀ v ∈ e.values, Json.Writable v) ∧ s = Json.encode (.record (e.members message)) := by
  have hfields : e.fields = (e.members message).map fun f => (f.1, Json.encodeChars f.2) := by
    have hpoints : Json.encodePoints e.message = Json.encodeText message.toList := by
      rw [hmessage]
      exact Json.encodePoints_codePoints message.toList
    rw [fields, hpoints]
    rfl
  rw [text, hfields, Json.encodeObject_eq, ← Json.hindrance?_eq_none_iff]
  cases Json.hindrance? e.values with
  | none =>
    rw [Except.ok.injEq, eq_self, true_and, eq_comm]
    rfl
  | some hindrance => exact iff_of_false (fun h => nomatch h) fun h => nomatch h.1

/-- An entry has no text exactly if something keeps its values from being written. -/
theorem text_eq_error_iff [Limits] (hindrance : Mismatch) :
    e.text = .error hindrance ↔ Json.hindrance? e.values = some hindrance := by
  rw [text]
  cases Json.hindrance? e.values with
  | none => exact iff_of_false (fun h => nomatch h) fun h => nomatch h
  | some other => rw [Except.error.injEq, Option.some.injEq]

/-- The values of an entry have JSON forms of their own. -/
structure Plain (e : Entry) : Prop where
  level : e.level.Plain
  logger : e.logger.Plain
  unit : e.unit.Plain
  function : e.function.Plain
  line : e.line.Plain
  thread : e.thread.Plain
  process : e.process.Plain
  extra : e.extra.Plain

theorem plain_exception (e : Entry) : e.exception.Plain := by
  rw [exception]
  split
  · exact .null
  · exact Incident.plain_value _

theorem Plain.members (h : e.Plain) (message : String) :
    (Value.record (e.members message)).Plain := by
  apply Value.Plain.record
  · show ["timestamp", "level", "logger_name", "message", "module", "function", "line_number",
      "thread_id", "process_id", "extra_data", "exception_info"].Nodup
    decide
  · rw [Entry.members]
    simp only [List.forall_mem_cons]
    exact ⟨.text _, h.level, h.logger, .text _, h.unit, h.function, h.line, h.thread, h.process,
      h.extra, e.plain_exception, fun f hf => nomatch hf⟩

/-- **An entry is read back.** -/
theorem decode?_text [Limits] (h : e.Plain)
    (hmessage : e.message = Text.codePoints message.toList) {s : String} (hs : e.text = .ok s) :
    Json.decode? s = some (.record (e.members message)) := by
  rw [((text_eq_ok_iff hmessage s).mp hs).2]
  exact Json.decode?_encode (h.members message)

/-- **An entry is printable ASCII.** -/
theorem printable_text [Limits] (h : e.Plain)
    (hmessage : e.message = Text.codePoints message.toList) {s : String} (hs : e.text = .ok s) :
    Json.Printable s.toList := by
  rw [((text_eq_ok_iff hmessage s).mp hs).2, Json.encode, String.toList_ofList]
  exact Json.printable_encodeChars (h.members message)

end Entry

/-! ### Lines of records -/

variable {o : Origin} {r : Record}

/-- The place that a record comes from has a JSON form of its own, which can be written. -/
structure Origin.Plain [Limits] (o : Origin) : Prop where
  unit : o.unit.Plain
  function : o.function.Plain
  line : o.line.Plain
  thread : o.thread.Plain
  process : o.process.Plain
  writable : ∀ v ∈ [o.unit, o.function, o.line, o.thread, o.process], Json.Writable v

/-- The error that a record reports, as a value. -/
def Record.exception (r : Record) : Value :=
  match r.incident with
  | none => .null
  | some i => i.value

/-- The named values of a line for machines. -/
def Record.members (o : Origin) (r : Record) : List (String × Value) :=
  [("timestamp", .text o.timestamp),
   ("level", .text r.level.name),
   ("logger_name", .text r.logger),
   ("message", .text r.message),
   ("module", o.unit),
   ("function", o.function),
   ("line_number", o.line),
   ("thread_id", o.thread),
   ("process_id", o.process),
   ("extra_data", r.extra),
   ("exception_info", r.exception)]

section Limits

variable [Limits]

end Limits

end Journal

end PeerName
