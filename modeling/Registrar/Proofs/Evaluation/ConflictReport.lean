import Registrar.Proofs.Evaluation.Conflicts

/-!
# What the conflict report records

The rows of a merge are grouped by their natural keys, and each column of each group is looked at once. The messages of
a group are different from one another (`nodup_conflicts`), because a message names its column, and the groups have
different keys. So every message counts once more exactly where it is a conflict of the rows of its key
(`count_reportConflicts`).

In terms of the rows (`reportConflicts_reported`): where two rows of a key disagree about a column, one conflict about
this column is recorded for the key, with the texts in the order in which they first come; otherwise none is, and
nothing else is recorded.
-/

namespace Registrar.Merge

variable {rows : List (Row .sisImport)} {c : Column} {log : IssueLog} {sheet key m : String}

/-- The rows with a natural key, in their order. -/
def rowsUnder (rows : List (Row .sisImport)) (key : String) : List (Row .sisImport) :=
  rows.filter fun r => naturalKey r = key

/-- The texts of a column that are not blank, trimmed, in row order. -/
def columnTexts (rows : List (Row .sisImport)) (c : Column) : List String :=
  (rows.map fun r => Text.trim (r.get c)).filter fun v => v ≠ ""

/-! ## The conflicts of one group -/

theorem reports_conflictMessage (c : Column) (values : List String) : Reports c (conflictMessage c values) := ⟨_, rfl⟩

/-- Rows have nothing to disagree about under a column that they lack. -/
theorem mem_exported_of_disagree (h : Disagree rows c) : c ∈ Kind.sisImport.exported := by
  obtain ⟨r, -, -, -, htext, -⟩ := h
  by_contra hc
  rw [Row.get_of_not_mem (by simpa [Kind.columns, Kind.transient] using hc)] at htext
  exact htext rfl

/-- A message that reports a column is a conflict where the rows disagree about this column. -/
theorem mem_conflicts_iff_of_reports (h : Reports c m) :
    m ∈ conflicts rows ↔ Disagree rows c ∧ m = conflictMessage c (columnValues rows c) := by
  rw [mem_conflicts_iff]
  constructor
  · rintro ⟨c', -, hdisagree, rfl⟩
    obtain ⟨values, hvalues⟩ := h
    obtain rfl : c' = c := conflictLead_inj hvalues
    exact ⟨hdisagree, rfl⟩
  · rintro ⟨hdisagree, hm⟩
    exact ⟨c, mem_exported_of_disagree hdisagree, hdisagree, hm⟩

theorem nodup_conflicts (rows : List (Row .sisImport)) : (conflicts rows).Nodup := by
  have hcolumns : Kind.sisImport.exported.Nodup := (List.nodup_append.1 Kind.sisImport.nodup_columns).1
  refine List.Nodup.filterMap (fun c c' m hm hm' => ?_) hcolumns
  -- a message names the column that it is about
  have hreports : ∀ c, m ∈ (if 1 < (columnValues rows c).length then some (conflictMessage c (columnValues rows c))
      else none) → Reports c m := by
    intro c hc
    split at hc
    · rw [← Option.some.inj hc]
      exact reports_conflictMessage c _
    · cases hc
  obtain ⟨values, rfl⟩ := hreports c hm
  obtain ⟨values', hvalues'⟩ := hreports c' hm'
  exact conflictLead_inj hvalues'

/-! ## The report -/

/-- Every message counts once more where it is a conflict of the rows of its key. -/
theorem count_reportConflicts :
    (reportConflicts rows log).count sheet key m =
      log.count sheet key m + if sheet = mergedSheetName ∧ m ∈ conflicts (rowsUnder rows key) then 1 else 0 := by
  rw [reportConflicts, IssueLog.count_foldl_recordAll (nodup_distinct _)]
  congr 1
  change (if _ then (conflicts (rowsUnder rows key)).count m else 0) = _
  by_cases hm : m ∈ conflicts (rowsUnder rows key)
  · rw [List.count_eq_one_of_mem (nodup_conflicts _) hm]
    simp only [mem_keys_of_mem_conflicts hm, hm]
  · rw [List.count_eq_zero_of_not_mem hm, ite_self, if_neg fun h => hm h.2]

/-- What reporting the conflicts of rows does to a log. -/
structure Reported (rows : List (Row .sisImport)) (before after : IssueLog) : Prop where
  /-- Where rows of a key disagree about a column, one conflict about the column is recorded for the key. It has the
  texts of the rows, each once, in the order in which they first come. -/
  complete : ∀ key c, Disagree (rowsUnder rows key) c →
    ∃ values, FirstAppearances (columnTexts (rowsUnder rows key) c) values ∧
      ∀ m, Reports c m → after.count mergedSheetName key m =
        before.count mergedSheetName key m + if m = conflictMessage c values then 1 else 0
  /-- Where they do not disagree, no conflict about the column is. -/
  sound : ∀ key c, ¬ Disagree (rowsUnder rows key) c → ∀ m, Reports c m →
    after.count mergedSheetName key m = before.count mergedSheetName key m
  /-- What is no conflict is not recorded. -/
  silent : ∀ sheet key m, (∀ c, ¬ Reports c m) → after.count sheet key m = before.count sheet key m
  /-- Other sheets stay as they are, and so do the keys whose rows agree. -/
  untouched : ∀ sheet key, (sheet = mergedSheetName → ∀ c, ¬ Disagree (rowsUnder rows key) c) →
    after.places.get? ⟨sheet, key⟩ = before.places.get? ⟨sheet, key⟩

/-- **Conflicts are reported soundly and completely.** For any rows and any log, one conflict is recorded for a natural
key and a column where two rows with this key hold different texts under the column, blanks at the ends aside and
neither of them blank. It shows the different texts in the order of the rows. Nothing else is recorded. -/
theorem reportConflicts_reported (rows : List (Row .sisImport)) (log : IssueLog) :
    Reported rows log (reportConflicts rows log) where
  complete := fun key c hdisagree => by
    refine ⟨columnValues (rowsUnder rows key) c, firstAppearances_distinct _, fun m hm => ?_⟩
    simp only [count_reportConflicts, mem_conflicts_iff_of_reports hm, hdisagree, true_and]
  sound := fun key c hagree m hm => by
    rw [count_reportConflicts, if_neg fun h => hagree ((mem_conflicts_iff_of_reports hm).1 h.2).1, Nat.add_zero]
  silent := fun sheet key m hm => by
    rw [count_reportConflicts, if_neg, Nat.add_zero]
    rintro ⟨-, hconflict⟩
    obtain ⟨c, -, -, rfl⟩ := mem_conflicts_iff.1 hconflict
    exact hm c (reports_conflictMessage c _)
  untouched := fun sheet key hagree => by
    refine IssueLog.get?_foldl_recordAll fun hsheet => List.eq_nil_iff_forall_not_mem.2 fun m hm => ?_
    obtain ⟨c, -, hdisagree, -⟩ := mem_conflicts_iff.1 hm
    exact hagree hsheet c hdisagree

end Registrar.Merge
