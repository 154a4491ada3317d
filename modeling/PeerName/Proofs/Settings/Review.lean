import Mathlib.Tactic.ByContra
import PeerName.Proofs.Text.Pieces
import PeerName.Settings.Issue

/-!
# What becomes of issues

Issues are handed in as two lists, but it is their severity that puts them into the one or the
other list of a review.  Two severities are known, that of errors and that of warnings.  No issue
with one of them is lost or doubled, and the order is kept.  An issue with any other severity gets
into neither list, and the summary passes over it, too: where there are only such issues it says
that all is well.

* `Issue.IsError`, `Issue.IsWarning` — the two severities;
* `Review.Sorts` — what it means that a review has sorted issues;
* `Review.sorts_ofIssues`, `Review.ofIssues_errors_warnings` — sorting, and sorting again;
* `Review.summaryLines`, `Review.pieces_summary` — the lines of the summary;
* `Review.summary_eq_valid_iff` — when it says that all is well;
* `Review.review_law` — **what becomes of issues**;
* `Review.ofIssues_leaves_out` — an issue that is neither an error nor a warning.
-/

namespace PeerName

/-! ### The two severities -/

/-- The issue is an error. -/
def Issue.IsError (i : Issue) : Prop := i.severity = .text "error"

/-- The issue is a warning. -/
def Issue.IsWarning (i : Issue) : Prop := i.severity = .text "warning"

theorem Issue.IsError.not_isWarning {i : Issue} (h : i.IsError) : ¬i.IsWarning := by
  rw [IsError] at h
  rw [IsWarning, h]
  exact fun htext => absurd (Value.text.inj htext) (by decide)

namespace Review

theorem hasSeverity_iff (severity : String) (i : Issue) :
    hasSeverity severity i = true ↔ i.severity = .text severity := by
  rw [hasSeverity, decide_eq_true_eq]
  cases i.severity with
  | text s => simp [Value.text?]
  | _ => simp [Value.text?]

/-! ### Sorting -/

/-- A review has sorted issues: it has the errors and the warnings among them, both in order, and
all that it leaves out is neither. -/
structure Sorts (r : Review) (issues : List Issue) : Prop where
  errors : r.errors.Sublist issues
  warnings : r.warnings.Sublist issues
  isError : ∀ i ∈ r.errors, i.IsError
  isWarning : ∀ i ∈ r.warnings, i.IsWarning
  others : ∃ others : List Issue, (r.errors ++ r.warnings ++ others).Perm issues ∧
    ∀ i ∈ others, ¬i.IsError ∧ ¬i.IsWarning

variable {isValid : Value} {errors warnings issues : List Issue} {r : Review}

/-- What is neither an error nor a warning. -/
def otherIssues (issues : List Issue) : List Issue :=
  (issues.filter (!hasSeverity "error" ·)).filter (!hasSeverity "warning" ·)

/-- A warning is still there when the errors have been taken out. -/
theorem filter_warning_of_not_error (issues : List Issue) :
    (issues.filter (!hasSeverity "error" ·)).filter (hasSeverity "warning") =
      issues.filter (hasSeverity "warning") := by
  rw [List.filter_filter]
  apply List.filter_congr
  intro i _
  by_cases hwarning : i.IsWarning
  · have herror : hasSeverity "error" i = false := by
      rw [Bool.eq_false_iff, ne_eq, hasSeverity_iff]
      exact fun herror => Issue.IsError.not_isWarning herror hwarning
    rw [herror, Bool.not_false, Bool.and_true]
  · have hother : hasSeverity "warning" i = false := by
      rwa [Bool.eq_false_iff, ne_eq, hasSeverity_iff]
    rw [hother, Bool.false_and]

/-- **A review sorts the issues that it is made of**, whichever list they were handed in with. -/
theorem sorts_ofIssues (isValid : Value) (errors warnings : List Issue) :
    (ofIssues isValid errors warnings).Sorts (errors ++ warnings) where
  errors := List.filter_sublist
  warnings := List.filter_sublist
  isError := fun i hi => (hasSeverity_iff "error" i).mp (List.mem_filter.mp hi).2
  isWarning := fun i hi => (hasSeverity_iff "warning" i).mp (List.mem_filter.mp hi).2
  others := by
    refine ⟨otherIssues (errors ++ warnings), ?_, ?_⟩
    · -- first the errors are taken out, then the warnings from the rest
      have herrors := List.filter_append_perm (hasSeverity "error") (errors ++ warnings)
      have hwarnings := List.filter_append_perm (hasSeverity "warning")
        ((errors ++ warnings).filter (!hasSeverity "error" ·))
      rw [filter_warning_of_not_error] at hwarnings
      rw [List.append_assoc]
      exact (hwarnings.append_left _).trans herrors
    · intro i hi
      obtain ⟨hi, hwarning⟩ := List.mem_filter.mp hi
      obtain ⟨-, herror⟩ := List.mem_filter.mp hi
      rw [Bool.not_eq_true', Bool.eq_false_iff, ne_eq, hasSeverity_iff] at herror hwarning
      exact ⟨herror, hwarning⟩

/-- Where all issues are errors or warnings, none is left out. -/
theorem Sorts.perm (h : r.Sorts issues) (hall : ∀ i ∈ issues, i.IsError ∨ i.IsWarning) :
    (r.errors ++ r.warnings).Perm issues := by
  obtain ⟨others, hperm, hothers⟩ := h.others
  have hnil : others = [] := by
    rw [List.eq_nil_iff_forall_not_mem]
    intro i hi
    obtain ⟨herror, hwarning⟩ := hothers i hi
    rcases hall i (hperm.mem_iff.mp (List.mem_append_right _ hi)) with h | h
    · exact herror h
    · exact hwarning h
  rwa [hnil, List.append_nil] at hperm

/-- A review is empty exactly when none of the issues is an error or a warning. -/
theorem Sorts.eq_nil_iff (h : r.Sorts issues) :
    (r.errors = [] ∧ r.warnings = []) ↔ ∀ i ∈ issues, ¬i.IsError ∧ ¬i.IsWarning := by
  obtain ⟨others, hperm, hothers⟩ := h.others
  constructor
  · rintro ⟨herrors, hwarnings⟩ i hi
    rw [herrors, hwarnings] at hperm
    exact hothers i (hperm.mem_iff.mpr hi)
  · intro hnone
    constructor
    · rw [List.eq_nil_iff_forall_not_mem]
      exact fun i hi => (hnone i (h.errors.subset hi)).1 (h.isError i hi)
    · rw [List.eq_nil_iff_forall_not_mem]
      exact fun i hi => (hnone i (h.warnings.subset hi)).2 (h.isWarning i hi)

/-- Issues of one severity are sorted into one list. -/
theorem filter_append_of_severity {severity : String} {own others : List Issue}
    (hown : ∀ i ∈ own, i.severity = .text severity)
    (hothers : ∀ i ∈ others, i.severity ≠ .text severity) :
    (own ++ others).filter (hasSeverity severity) = own ∧
      (others ++ own).filter (hasSeverity severity) = own := by
  have hkept : own.filter (hasSeverity severity) = own :=
    List.filter_eq_self.mpr fun i hi => (hasSeverity_iff severity i).mpr (hown i hi)
  have hdropped : others.filter (hasSeverity severity) = [] :=
    List.filter_eq_nil_iff.mpr fun i hi => mt (hasSeverity_iff severity i).mp (hothers i hi)
  rw [List.filter_append, List.filter_append, hkept, hdropped]
  exact ⟨List.append_nil own, List.nil_append own⟩

/-- Sorting what is sorted changes nothing. -/
theorem ofIssues_errors_warnings (h : r.Sorts issues) :
    ofIssues r.isValid r.errors r.warnings = r := by
  have herrors : (r.errors ++ r.warnings).filter (hasSeverity "error") = r.errors :=
    (filter_append_of_severity h.isError
      fun i hi herror => Issue.IsError.not_isWarning herror (h.isWarning i hi)).1
  have hwarnings : (r.errors ++ r.warnings).filter (hasSeverity "warning") = r.warnings :=
    (filter_append_of_severity h.isWarning
      fun i hi hwarning => (h.isError i hi).not_isWarning hwarning).2
  rw [ofIssues, herrors, hwarnings]

/-! ### The summary -/

/-- The lines of an issue in a summary; there is more than one if there are line feeds in it. -/
def issueLines (label : String) (i : Issue) : List (List Char) :=
  Text.pieces '\n'
    ("  - " ++ (label ++ ": " ++ i.field.plain ++ " - " ++ i.message.plain)).toList

/-- The lines of issues under a heading, if there are any issues. -/
def headedLines (heading label : String) (issues : List Issue) : List (List Char) :=
  if issues.isEmpty then [] else heading.toList :: issues.flatMap (issueLines label)

/-- The lines of a summary that has something to tell: the errors under their heading, then the
warnings under theirs. -/
def summaryLines (r : Review) : List (List Char) :=
  headedLines "Configuration Errors:" "ERROR" r.errors ++
    headedLines "Configuration Warnings:" "WARNING" r.warnings

theorem item_eq {severity label : String} (hlabel : Unicode.upper severity = label) {i : Issue}
    (h : i.severity = .text severity) :
    item i = "  - " ++ (label ++ ": " ++ i.field.plain ++ " - " ++ i.message.plain) := by
  have hline : i.line =
      .ok (label ++ ": " ++ i.field.plain ++ " - " ++ i.message.plain) := by
    rw [Issue.line, h, upperValue, hlabel]
    rfl
  rw [item, hline]

/-- The lines of a block: the heading, and the lines of every issue, in order. -/
theorem pieces_block {heading severity label : String} (hheading : '\n' ∉ heading.toList)
    (hlabel : Unicode.upper severity = label)
    (h : ∀ i ∈ issues, i.severity = .text severity) :
    ((block heading issues).map String.toList).flatMap (Text.pieces '\n') =
      headedLines heading label issues := by
  have hitems : issues.map (fun i => Text.pieces '\n' (item i).toList) =
      issues.map (issueLines label) := by
    apply List.map_congr_left
    intro i hi
    rw [item_eq hlabel (h i hi), issueLines]
  rw [block, headedLines]
  split
  · rfl
  · rw [List.map_cons, List.flatMap_cons, Text.pieces_of_notMem hheading, List.map_map,
      List.flatMap_def, List.flatMap_def, List.map_map, ← hitems]
    rfl

theorem block_ne_nil {heading : String} (h : issues ≠ []) : block heading issues ≠ [] := by
  rw [block, if_neg (mt List.isEmpty_iff.mp h)]
  exact List.cons_ne_nil _ _

theorem headedLines_nil (heading label : String) : headedLines heading label [] = [] := rfl

theorem headedLines_of_ne_nil {heading label : String} (h : issues ≠ []) :
    headedLines heading label issues = heading.toList :: issues.flatMap (issueLines label) := by
  rw [headedLines, if_neg (mt List.isEmpty_iff.mp h)]

theorem summary_of_nil (herrors : r.errors = []) (hwarnings : r.warnings = []) :
    r.summary = "Configuration is valid" := by
  rw [summary, herrors, hwarnings]
  rfl

theorem summary_of_ne_nil (h : r.errors ≠ [] ∨ r.warnings ≠ []) :
    let blocks := block "Configuration Errors:" r.errors ++
      block "Configuration Warnings:" r.warnings
    blocks ≠ [] ∧ r.summary = "\n".intercalate blocks := by
  intro blocks
  have hne : blocks ≠ [] := by
    intro hnil
    obtain ⟨herrors, hwarnings⟩ := List.append_eq_nil_iff.mp hnil
    rcases h with h | h
    · exact block_ne_nil h herrors
    · exact block_ne_nil h hwarnings
  exact ⟨hne, if_neg (mt List.isEmpty_iff.mp hne)⟩

/-- **The lines of the summary** of errors and warnings. -/
theorem pieces_summary (h : r.Sorts issues) (hne : r.errors ≠ [] ∨ r.warnings ≠ []) :
    Text.pieces '\n' r.summary.toList = r.summaryLines := by
  obtain ⟨hblocks, hsummary⟩ := summary_of_ne_nil hne
  have herror : Unicode.upper "error" = "ERROR" := by decide +kernel
  have hwarning : Unicode.upper "warning" = "WARNING" := by decide +kernel
  have hfeed : "\n".toList = ['\n'] := rfl
  rw [hsummary, String.toList_intercalate, hfeed,
    Text.pieces_join (mt List.map_eq_nil_iff.mp hblocks), List.map_append, List.flatMap_append,
    pieces_block (by decide) herror h.isError, pieces_block (by decide) hwarning h.isWarning,
    summaryLines]

/-- The summary says that all is well exactly when the review is empty. -/
theorem summary_eq_valid_iff (h : r.Sorts issues) :
    r.summary = "Configuration is valid" ↔ r.errors = [] ∧ r.warnings = [] := by
  constructor
  · intro hvalid
    by_contra hne
    have hlines : ["Configuration is valid".toList] = r.summaryLines := by
      rw [← pieces_summary h (not_and_or.mp hne), hvalid, Text.pieces_of_notMem (by decide)]
    -- the summary begins with a heading, and no heading says so
    by_cases herrors : r.errors = []
    · have hwarnings : r.warnings ≠ [] := fun hnil => hne ⟨herrors, hnil⟩
      rw [summaryLines, herrors, headedLines_nil, List.nil_append,
        headedLines_of_ne_nil hwarnings] at hlines
      exact absurd (List.cons.inj hlines).1 (by decide)
    · rw [summaryLines, headedLines_of_ne_nil herrors] at hlines
      exact absurd (List.cons.inj hlines).1 (by decide)
  · exact fun ⟨herrors, hwarnings⟩ => summary_of_nil herrors hwarnings

/-! ### The law -/

/-- **What becomes of issues.**  A review of two lists of issues has the errors among them and the
warnings among them, each in order and each once, and leaves out what is neither.  A review made of
the two lists of a review is this review.  The summary says that all is well exactly when there are
neither errors nor warnings; otherwise its lines are the errors under their heading and the warnings
under theirs.  So where every issue is an error or a warning, nothing is lost, and the summary says
that all is well exactly when nothing was handed in. -/
theorem review_law (isValid : Value) (errors warnings : List Issue) :
    let r := ofIssues isValid errors warnings
    let valid := r.summary = "Configuration is valid"
    r.Sorts (errors ++ warnings) ∧
    ofIssues r.isValid r.errors r.warnings = r ∧
    (valid ↔ ∀ i ∈ errors ++ warnings, ¬i.IsError ∧ ¬i.IsWarning) ∧
    (¬valid → Text.pieces '\n' r.summary.toList = r.summaryLines) ∧
    ((∀ i ∈ errors ++ warnings, i.IsError ∨ i.IsWarning) →
      (r.errors ++ r.warnings).Perm (errors ++ warnings) ∧
        (valid ↔ errors = [] ∧ warnings = [])) := by
  intro r valid
  have hsorts : r.Sorts (errors ++ warnings) := sorts_ofIssues isValid errors warnings
  have hvalid : valid ↔ r.errors = [] ∧ r.warnings = [] := summary_eq_valid_iff hsorts
  refine ⟨hsorts, ofIssues_errors_warnings hsorts, hvalid.trans hsorts.eq_nil_iff, ?_, ?_⟩
  · intro htold
    exact pieces_summary hsorts (not_and_or.mp (mt hvalid.mpr htold))
  · intro hall
    have hperm := hsorts.perm hall
    refine ⟨hperm, hvalid.trans ?_⟩
    rw [← List.append_eq_nil_iff, ← List.append_eq_nil_iff]
    exact ⟨fun hnil => (hnil ▸ hperm).symm.eq_nil, fun hnil => (hnil ▸ hperm).eq_nil⟩

/-- A warning and an error that were handed in with the wrong lists. -/
theorem review_law_misfiled :
    let error : Issue := { field := .text "log_level", message := .text "unknown" }
    let warning := Settings.warn "log_file_path" "a\nb"
    let r := ofIssues (.bool false) [warning] [error]
    r.Sorts [warning, error] ∧
    (r.summary ≠ "Configuration is valid" ∧
      Text.pieces '\n' r.summary.toList = r.summaryLines) ∧
    ((∀ i ∈ [warning, error], i.IsError ∨ i.IsWarning) ∧
      (r.errors ++ r.warnings).Perm [warning, error]) ∧
    r.summary = "Configuration Errors:\n  - ERROR: log_level - unknown\n"
      ++ "Configuration Warnings:\n  - WARNING: log_file_path - a\nb" := by
  intro error warning r
  obtain ⟨hsorts, -, -, hlines, hall⟩ := review_law (.bool false) [warning] [error]
  have htold : r.summary ≠ "Configuration is valid" := by decide +kernel
  have hkinds : ∀ i ∈ [warning, error], i.IsError ∨ i.IsWarning :=
    List.forall_mem_cons.mpr ⟨Or.inr rfl, List.forall_mem_singleton.mpr (Or.inl rfl)⟩
  exact ⟨hsorts, ⟨htold, hlines htold⟩, ⟨hkinds, (hall hkinds).1⟩, by decide +kernel⟩

/-- An issue that is only for information was handed in with the errors.  It is in neither list, and
the summary says that all is well. -/
theorem ofIssues_leaves_out :
    let issue : Issue :=
      { field := .text "log_level", message := .text "unusual", severity := .text "info" }
    let r := ofIssues (.bool false) [issue] []
    issue ∉ r.errors ∧ issue ∉ r.warnings ∧ r.summary = "Configuration is valid" := by
  intro issue r
  have herrors : r.errors = [] := by decide +kernel
  have hwarnings : r.warnings = [] := by decide +kernel
  rw [herrors, hwarnings]
  exact ⟨List.not_mem_nil, List.not_mem_nil, summary_of_nil herrors hwarnings⟩

end Review

end PeerName
