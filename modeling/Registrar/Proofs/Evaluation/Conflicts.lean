import Registrar.Proofs.Evaluation.IssueLog
import Registrar.Proofs.Evaluation.Merge
import Registrar.Proofs.Text.Split

/-!
# Conflicts of a merge

A conflict about a column names the column (`conflictLead`), and the text after it cannot be taken for another column
(`conflictLead_inj`) nor another issue for a conflict (`not_reports_fault`, `not_reports_noImportRow`). So the log of a
merge has a conflict about an exported column under a natural key exactly where two of the rows under that key hold
different texts in it (`hasConflict_outcomeWith_iff`): neither their order nor the number of rows matters.
-/

namespace Registrar.Merge

variable {rows : List (Row .sisImport)} {c c' : Column} {log : IssueLog} {sheet key m v : String}

/-! ## Messages about conflicts -/

/-- The words that every conflict starts with. -/
def conflictWords : String := "Conflicting values found under "

/-- How a conflict about a column starts. -/
def conflictLead (c : Column) : String := conflictWords ++ c.header ++ ": "

/-- The message is a conflict about the column. -/
def Reports (c : Column) (message : String) : Prop := ∃ values, message = conflictLead c ++ values

theorem colon_not_mem_header (c : Column) : ':' ∉ c.header.toList := by
  have h : ∀ c ∈ Column.all, ':' ∉ c.header.toList := by decide +kernel
  exact h c (Column.mem_all c)

theorem toList_conflictLead (c : Column) (values : String) :
    (conflictLead c ++ values).toList = conflictWords.toList ++ (c.header.toList ++ ':' :: ' ' :: values.toList) := by
  have hcolon : (": " : String).toList = [':', ' '] := rfl
  rw [conflictLead, String.toList_append, String.toList_append, String.toList_append, hcolon, List.append_assoc,
    List.append_assoc]
  rfl

/-- A conflict is about one column. -/
theorem conflictLead_inj {values values' : String} (h : conflictLead c ++ values = conflictLead c' ++ values') :
    c = c' := by
  have hparts := congrArg String.toList h
  rw [toList_conflictLead, toList_conflictLead] at hparts
  obtain ⟨hheaders, -⟩ := Text.append_sep_inj (colon_not_mem_header c) (colon_not_mem_header c')
    (List.append_cancel_left hparts)
  exact Column.header_injective (String.toList_inj.1 hheaders)

theorem head?_of_reports (h : Reports c m) : m.toList.head? = some 'C' := by
  obtain ⟨values, rfl⟩ := h
  rw [toList_conflictLead]
  rfl

theorem not_reports_noImportRow : ¬ Reports c noImportRow := fun h => nomatch head?_of_reports h

/-- No fault of a row looks like a conflict. -/
theorem not_reports_fault (fault : Fault) : ¬ Reports c fault.message := by
  intro h
  have hhead := head?_of_reports h
  cases fault with
  | blank column =>
    rw [Fault.message, String.toList_append] at hhead
    cases hhead
  | refused complaint column value =>
    rw [Fault.message, String.toList_append, String.toList_append, String.toList_append, String.toList_append] at hhead
    cases complaint <;> cases hhead

/-! ## Rows that disagree -/

/-- Two rows hold different texts under a column, neither of them blank; blanks at the ends do not count. -/
def Disagree (rows : List (Row .sisImport)) (c : Column) : Prop :=
  ∃ r ∈ rows, ∃ r' ∈ rows, Text.trim (r.get c) ≠ "" ∧ Text.trim (r'.get c) ≠ "" ∧
    Text.trim (r.get c) ≠ Text.trim (r'.get c)

theorem Disagree.mono {rows' : List (Row .sisImport)} (h : Disagree rows c) (hmem : ∀ r, r ∈ rows → r ∈ rows') :
    Disagree rows' c := by
  obtain ⟨r, hr, r', hr', htexts⟩ := h
  exact ⟨r, hmem r hr, r', hmem r' hr', htexts⟩

theorem one_lt_length_columnValues_iff : 1 < (columnValues rows c).length ↔ Disagree rows c := by
  have hmem : ∀ v, v ∈ (rows.map fun r => Text.trim (r.get c)).filter (fun v => v ≠ "") ↔
      (∃ r ∈ rows, Text.trim (r.get c) = v) ∧ v ≠ "" := by simp
  rw [columnValues, one_lt_length_distinct_iff]
  constructor
  · rintro ⟨v, hv, v', hv', hne⟩
    obtain ⟨⟨r, hr, rfl⟩, htext⟩ := (hmem v).1 hv
    obtain ⟨⟨r', hr', rfl⟩, htext'⟩ := (hmem v').1 hv'
    exact ⟨r, hr, r', hr', htext, htext', hne⟩
  · rintro ⟨r, hr, r', hr', htext, htext', hne⟩
    exact ⟨_, (hmem _).2 ⟨⟨r, hr, rfl⟩, htext⟩, _, (hmem _).2 ⟨⟨r', hr', rfl⟩, htext'⟩, hne⟩

theorem mem_conflicts_iff :
    m ∈ conflicts rows ↔
      ∃ c ∈ Kind.sisImport.exported, Disagree rows c ∧ m = conflictMessage c (columnValues rows c) := by
  rw [conflicts, List.mem_filterMap]
  refine exists_congr fun c => and_congr_right fun _ => ?_
  dsimp only
  rw [← one_lt_length_columnValues_iff]
  split
  · rename_i h
    simp [h, eq_comm]
  · rename_i h
    simp [h]

/-- Rows have a conflict about a column where they disagree. -/
theorem exists_reports_conflicts_iff :
    (∃ m ∈ conflicts rows, Reports c m) ↔ c ∈ Kind.sisImport.exported ∧ Disagree rows c := by
  constructor
  · rintro ⟨m, hm, values, hvalues⟩
    obtain ⟨c', hc', hdisagree, rfl⟩ := mem_conflicts_iff.1 hm
    obtain rfl : c' = c := conflictLead_inj hvalues
    exact ⟨hc', hdisagree⟩
  · rintro ⟨hc, hdisagree⟩
    exact ⟨_, mem_conflicts_iff.2 ⟨c, hc, hdisagree, rfl⟩, _, rfl⟩

/-! ## The log of a merge -/

/-- Rows that have a conflict are there. -/
theorem mem_keys_of_mem_conflicts (h : m ∈ conflicts (rows.filter fun r => naturalKey r = key)) :
    key ∈ distinct (rows.map naturalKey) := by
  obtain ⟨c, -, ⟨r, hr, -⟩, -⟩ := mem_conflicts_iff.1 h
  obtain ⟨hrows, hkey⟩ := List.mem_filter.1 hr
  exact mem_distinct.2 (List.mem_map.2 ⟨r, hrows, of_decide_eq_true hkey⟩)

/-- The conflicts of rows are recorded under their natural keys. -/
theorem mem_messages_reportConflicts :
    m ∈ (reportConflicts rows log).messages sheet key ↔
      m ∈ log.messages sheet key ∨
        sheet = mergedSheetName ∧ m ∈ conflicts (rows.filter fun r => naturalKey r = key) := by
  rw [reportConflicts, IssueLog.mem_messages_foldl]
  refine or_congr_right (and_congr_right fun _ => ⟨?_, fun hm => ⟨key, mem_keys_of_mem_conflicts hm, rfl, hm⟩⟩)
  rintro ⟨a, -, rfl, hm⟩
  exact hm

/-- The faults of rows are recorded under their natural keys. -/
theorem mem_messages_enterAll {outcome : MergeOutcome} :
    m ∈ (rows.foldl enter outcome).log.messages sheet key ↔
      m ∈ outcome.log.messages sheet key ∨
        sheet = mergedSheetName ∧ ∃ r ∈ rows, naturalKey r = key ∧ m ∈ r.faults.map Fault.message := by
  rw [← IssueLog.mem_messages_foldl naturalKey fun r => r.faults.map Fault.message]
  have hlog : rows.foldl (fun log r => log.recordAll mergedSheetName (naturalKey r) (r.faults.map Fault.message))
      outcome.log = (rows.foldl enter outcome).log := List.foldl_hom MergeOutcome.log fun _ _ => rfl
  rw [hlog]

/-- The issues of adding a confirmation. -/
def addIssues (imports : List (Row .sisImport)) (confirmation : Row .courseConfirmation) : List String :=
  if (Resolution.of imports confirmation).isMatched then [] else [noImportRow]

theorem log_addRow (m : Merge) (confirmation : Row .courseConfirmation) :
    (addRow m confirmation).log =
      m.log.recordAll mergedSheetName (naturalKey confirmation) (addIssues m.imports confirmation) := by
  unfold addRow addIssues
  dsimp only
  split <;> rfl

/-- Confirmations without an import row are recorded under their natural keys. -/
theorem mem_messages_addAll {merge : Merge} {confirmations : List (Row .courseConfirmation)} :
    m ∈ (confirmations.foldl addRow merge).log.messages sheet key ↔
      m ∈ merge.log.messages sheet key ∨
        sheet = mergedSheetName ∧ ∃ r ∈ confirmations, naturalKey r = key ∧ m ∈ addIssues merge.imports r := by
  induction confirmations generalizing merge with
  | nil => simp
  | cons r rest ih =>
    rw [List.foldl_cons, ih, log_addRow, IssueLog.mem_messages_recordAll]
    simp only [List.mem_cons, exists_eq_or_imp, or_assoc, ← and_or_left, addRow]
    rw [eq_comm (a := key)]

theorem mem_messages_outcomeWith {merge : Merge} (fill : Row .sisImport → Row .sisImport) :
    m ∈ (outcomeWith fill merge).log.messages sheet key ↔
      m ∈ merge.log.messages sheet key ∨ sheet = mergedSheetName ∧
        (m ∈ conflicts ((Splitting.split merge.options.adjacencyDays (distinct merge.rows)).filter fun r =>
            naturalKey r = key) ∨
          ∃ r ∈ (outcomeWith fill merge).merged.toList, naturalKey r = key ∧ m ∈ r.faults.map Fault.message) := by
  rw [toList_outcomeWith, outcomeWith, mem_messages_enterAll, mem_messages_reportConflicts, or_assoc, ← and_or_left]

/-! ## Conflicts in the log of a merge -/

/-- A conflict about the column is logged under the key. -/
def HasConflict (log : IssueLog) (key : String) (c : Column) : Prop :=
  ∃ m ∈ log.messages mergedSheetName key, Reports c m

theorem hasConflict_outcomeWith_iff {merge : Merge} (fill : Row .sisImport → Row .sisImport) :
    HasConflict (outcomeWith fill merge).log key c ↔
      HasConflict merge.log key c ∨ c ∈ Kind.sisImport.exported ∧
        Disagree ((Splitting.split merge.options.adjacencyDays (distinct merge.rows)).filter fun r =>
          naturalKey r = key) c := by
  rw [← exists_reports_conflicts_iff]
  constructor
  · rintro ⟨m, hm, hreports⟩
    rcases (mem_messages_outcomeWith fill).1 hm with hbefore | ⟨-, hconflict | ⟨r, -, -, hfault⟩⟩
    · exact .inl ⟨m, hbefore, hreports⟩
    · exact .inr ⟨m, hconflict, hreports⟩
    · obtain ⟨fault, -, rfl⟩ := List.mem_map.1 hfault
      exact absurd hreports (not_reports_fault fault)
  · rintro (⟨m, hm, hreports⟩ | ⟨m, hm, hreports⟩)
    · exact ⟨m, (mem_messages_outcomeWith fill).2 (.inl hm), hreports⟩
    · exact ⟨m, (mem_messages_outcomeWith fill).2 (.inr ⟨rfl, .inl hm⟩), hreports⟩

/-- Adding confirmations logs no conflict. -/
theorem not_hasConflict_addAll (imports : Sheet .sisImport) (options : MergeOptions)
    (sheets : List (Sheet .courseConfirmation)) :
    ¬ HasConflict (sheets.foldl add (start imports options)).log key c := by
  rintro ⟨m, hm, hreports⟩
  rw [foldl_add_eq, mem_messages_addAll] at hm
  rcases hm with hstart | ⟨-, r, -, -, hissue⟩
  · cases hstart
  · unfold addIssues at hissue
    split at hissue
    · cases hissue
    · rw [List.mem_singleton.1 hissue] at hreports
      exact not_reports_noImportRow hreports

/-- **A merge logs a conflict about an exported column under a natural key exactly where two of the rows under that key,
after the split, hold different texts in it.** -/
theorem hasConflict_merge_iff (imports : Sheet .sisImport) (options : MergeOptions)
    (sheets : List (Sheet .courseConfirmation)) (fill : Row .sisImport → Row .sisImport) :
    HasConflict (outcomeWith fill (sheets.foldl add (start imports options))).log key c ↔
      c ∈ Kind.sisImport.exported ∧
        Disagree ((Splitting.split options.adjacencyDays (distinct (submitted imports sheets))).filter fun r =>
          naturalKey r = key) c := by
  rw [hasConflict_outcomeWith_iff, or_iff_right (not_hasConflict_addAll imports options sheets), rows_addAll,
    (foldl_add _ sheets).1, start]

end Registrar.Merge
