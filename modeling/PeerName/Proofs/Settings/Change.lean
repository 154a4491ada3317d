import PeerName.Settings.Basic

/-!
# Changed settings

Settings are changed by named values.  As long as these name fields of the settings, each field is
read from its value, or from the value that it had; the checks are those of new settings.

* `LogLevel.ofName?_name`, `LogLevel.name_of_ofName?` — levels and their names;
* `Fields.bind_of_defaults` — the values of a form whose fields all have defaults;
* `Settings.change_eq` — **the fields of changed settings**.
-/

namespace PeerName

/-! ### Levels -/

/-- A level is found by its name. -/
theorem LogLevel.ofName?_name (l : LogLevel) : LogLevel.ofName? l.name = some l := by
  cases l <;> decide

/-- A level has the name by which it is found. -/
theorem LogLevel.name_of_ofName? {name : String} {l : LogLevel}
    (h : LogLevel.ofName? name = some l) : l.name = name := by
  have hfound := List.find?_some h
  exact of_decide_eq_true hfound

/-! ### Forms -/

namespace Fields

theorem mapM_fieldValue (given fields : List (String × Value)) :
    (fields.map fun f => (f.1, some f.2)).mapM (fieldValue given) =
      some (fields.map fun f => (given.lookup f.1).getD f.2) := by
  induction fields with
  | nil => rfl
  | cons f rest ih =>
    have hvalue : fieldValue given (f.1, some f.2) = some ((given.lookup f.1).getD f.2) := by
      rw [fieldValue]
      cases given.lookup f.1 <;> rfl
    rw [List.map_cons, List.mapM_cons, hvalue, ih]
    rfl

/-- Values that name fields fit a form with defaults. -/
theorem bind_of_defaults (name : String) (given fields : List (String × Value))
    (hself : "self" ∉ fields.map Prod.fst)
    (hknown : ∀ g ∈ given, g.1 ∈ fields.map Prod.fst) :
    (Form.mk name (fields.map fun f => (f.1, some f.2))).bind given =
      .ok (fields.map fun f => (given.lookup f.1).getD f.2) := by
  have hstranger : (Form.mk name (fields.map fun f => (f.1, some f.2))).stranger? given = none := by
    rw [Form.stranger?, List.findSome?_eq_none_iff]
    intro g hg
    have hmem : g.1 ∈ fields.map Prod.fst := hknown g hg
    have hne : g.1 ≠ "self" := by
      intro hname
      rw [hname] at hmem
      exact hself hmem
    obtain ⟨f, hf, hname⟩ := List.mem_map.mp hmem
    rw [if_neg hne, if_pos]
    rw [List.any_eq_true]
    exact ⟨(f.1, some f.2), List.mem_map_of_mem hf, decide_eq_true hname⟩
  rw [Form.bind, hstranger, mapM_fieldValue]

end Fields

/-! ### Settings -/

namespace Settings

/-- **The fields of changed settings**: each is read from the value that is given for it, or from
the one that it had. -/
theorem change_eq (s : Settings) (given : List (String × Value))
    (hknown : ∀ g ∈ given, g.1 ∈ s.fields.map Prod.fst) :
    s.change given = do
      let valueOr (name : String) (old : Value) := (given.lookup name).getD old
      let commonNameFallback ← boolean "legacy_common_name_fallback"
        (valueOr "legacy_common_name_fallback" (.bool s.commonNameFallback))
      let wildcards ← boolean "allow_wildcards" (valueOr "allow_wildcards" (.bool s.wildcards))
      let jsonLogging ← boolean "json_logging" (valueOr "json_logging" (.bool s.jsonLogging))
      let logFile ← text "log_file_path" (valueOr "log_file_path" (.text s.logFile))
      let logLevel ← level (valueOr "log_level" (.text s.logLevel.name))
      return { commonNameFallback, wildcards, logLevel, logFile, jsonLogging } := by
  have hself : "self" ∉ s.fields.map Prod.fst := by
    simp [fields]
  rw [change, form, Fields.bind_of_defaults _ _ _ hself hknown]
  rfl

end Settings

end PeerName
