import Registrar.Proofs.Evaluation.Conflicts
import Registrar.Proofs.Evaluation.Separation

/-!
# The keys under which a merge logs

Conflicts and faults are logged under the natural keys of merged rows. A confirmation without an import row is logged
when it is added, before courses are split, so its key is that of its merged row only where the course stays. A key of
the log that no merged row has is therefore the key of such a confirmation of a split course (`stray_of_not_isNamed`),
and has that one message (`finish_log_names`). Such keys do occur (`finish_logs_stray`).
-/

namespace Registrar

/-- A call to a merge before it is finished. -/
inductive Submission where
  /-- The confirmations of a department. -/
  | confirm (sheet : Sheet .courseConfirmation)
  /-- A problem of an input sheet. -/
  | issue (sheet key message : String)

namespace Merge

open Splitting

variable {σ : Type} {h : Handler services σ} {imports : Sheet .sisImport} {options : MergeOptions} {m : Merge}
  {steps : List Submission} {outcome : MergeOutcome} {fill : Row .sisImport → Row .sisImport} {key message : String}

/-! ## Calls before the end -/

/-- The confirmations of a call that say something. -/
def said : Submission → List (Row .courseConfirmation)
  | .confirm sheet => spoken sheet
  | .issue .. => []

/-- Makes a call. -/
def submit (m : Merge) : Submission → Merge
  | .confirm sheet => m.add sheet
  | .issue sheet key message => m.recordInputIssue sheet key message

/-- No problem of an input sheet goes under the name of the merged rows. -/
def KeepsToInputs (steps : List Submission) : Prop :=
  ∀ sheet key message, .issue sheet key message ∈ steps → sheet ≠ mergedSheetName

/-- The merged rows of confirmations. -/
def resolved (imports : List (Row .sisImport)) (confirmations : List (Row .courseConfirmation)) :
    List (Row .sisImport) :=
  confirmations.map fun r => (Resolution.of imports r).row

theorem submit_eq (m : Merge) (step : Submission) :
    (m.submit step).imports = m.imports ∧ (m.submit step).options = m.options ∧
      (m.submit step).rows = m.rows ++ resolved m.imports (said step) := by
  cases step with
  | confirm sheet => exact foldl_addRow m (spoken sheet)
  | issue sheet key message => exact ⟨rfl, rfl, (List.append_nil _).symm⟩

theorem mem_messages_submit {step : Submission} (hstep : KeepsToInputs [step]) :
    message ∈ (m.submit step).log.messages mergedSheetName key ↔
      message ∈ m.log.messages mergedSheetName key ∨
        ∃ r ∈ said step, naturalKey r = key ∧ message ∈ addIssues m.imports r := by
  cases step with
  | confirm sheet =>
    refine mem_messages_addAll.trans (or_congr_right ?_)
    exact and_iff_right rfl
  | issue sheet key' text =>
    have hne : mergedSheetName ≠ sheet := (hstep sheet key' text List.mem_cons_self).symm
    refine IssueLog.mem_messages_record.trans ?_
    rw [or_iff_left fun h => hne h.1, or_iff_left]
    rintro ⟨r, hr, -⟩
    cases hr

theorem foldl_submit (m : Merge) (steps : List Submission) :
    (steps.foldl submit m).options = m.options ∧
      (steps.foldl submit m).rows = m.rows ++ resolved m.imports (steps.flatMap said) := by
  induction steps generalizing m with
  | nil => exact ⟨rfl, (List.append_nil _).symm⟩
  | cons step rest ih =>
    obtain ⟨himports, hoptions, hrows⟩ := submit_eq m step
    obtain ⟨hoptions', hrows'⟩ := ih (m.submit step)
    refine ⟨hoptions'.trans hoptions, ?_⟩
    rw [List.foldl_cons, hrows', hrows, himports, List.flatMap_cons, resolved, resolved, resolved, List.map_append,
      List.append_assoc]

/-- Before the end the merged rows have the issues of adding confirmations, whatever is recorded for input sheets. -/
theorem mem_messages_submitAll (hsteps : KeepsToInputs steps) :
    message ∈ (steps.foldl submit m).log.messages mergedSheetName key ↔
      message ∈ m.log.messages mergedSheetName key ∨
        ∃ r ∈ steps.flatMap said, naturalKey r = key ∧ message ∈ addIssues m.imports r := by
  induction steps generalizing m with
  | nil => simp
  | cons step rest ih =>
    have hrest : KeepsToInputs rest := fun sheet key message hmem =>
      hsteps sheet key message (List.mem_cons_of_mem _ hmem)
    have hstep : KeepsToInputs [step] := fun sheet key message hmem =>
      hsteps sheet key message (List.mem_singleton.1 hmem ▸ List.mem_cons_self)
    rw [List.foldl_cons, ih hrest, mem_messages_submit hstep, (submit_eq m step).1, List.flatMap_cons, or_assoc]
    simp only [List.mem_append, or_and_right, exists_or]

/-! ## Keys of merged rows -/

/-- The key is the natural key of a merged row. -/
def IsNamed (outcome : MergeOutcome) (key : String) : Prop := ∃ r ∈ outcome.merged.toList, naturalKey r = key

/-- The key is that of a confirmation without an import row whose course is split. -/
def IsStray (imports : List (Row .sisImport)) (gap : Int) (confirmations : List (Row .courseConfirmation))
    (key : String) : Prop :=
  ∃ r ∈ confirmations, naturalKey r = key ∧ (Resolution.of imports r).isMatched = false ∧
    r.get .courseId ∈ splitIds gap (distinct (resolved imports confirmations))

/-- A row that a merge collects names its key after the split. -/
theorem isNamed_renamed (ids : Keyed String) {d : Row .sisImport} (hd : d ∈ m.rows) :
    IsNamed (outcomeWith (Backfill.fill ids) m)
      (naturalKey (renamed m.options.adjacencyDays (distinct m.rows) d)) := by
  refine ⟨_, ?_, naturalKey_settled ids d⟩
  rw [toList_outcomeWith]
  exact List.mem_map.2 ⟨d, mem_distinct.2 hd, rfl⟩

/-- The merged row of a confirmation has its natural key. -/
theorem naturalKey_row (imports : List (Row .sisImport)) (r : Row .courseConfirmation) :
    naturalKey (Resolution.of imports r).row = naturalKey r := by
  rw [naturalKey, naturalKey, get_row_of_mem _ _ (by decide), get_row_of_mem _ _ (by decide)]

/-! ## The log of a merge -/

/-- Before the end a merge has logged the confirmations without an import row. -/
theorem mem_messages_start (hsteps : KeepsToInputs steps) :
    message ∈ (steps.foldl submit (start imports options)).log.messages mergedSheetName key ↔
      message = noImportRow ∧ ∃ r ∈ steps.flatMap said, naturalKey r = key ∧
        (Resolution.of imports.toList r).isMatched = false := by
  rw [mem_messages_submitAll hsteps]
  have hnone : message ∉ (start imports options).log.messages mergedSheetName key := fun h => nomatch h
  rw [or_iff_right hnone]
  constructor
  · rintro ⟨r, hr, hkey, hissue⟩
    unfold addIssues at hissue
    split at hissue
    · cases hissue
    · rename_i hmatched
      exact ⟨List.mem_singleton.1 hissue, r, hr, hkey, Bool.eq_false_iff.2 hmatched⟩
  · rintro ⟨rfl, r, hr, hkey, hmatched⟩
    refine ⟨r, hr, hkey, ?_⟩
    show noImportRow ∈ if (Resolution.of imports.toList r).isMatched then [] else [noImportRow]
    rw [hmatched]
    exact List.mem_singleton.2 rfl

theorem nodup_messages (log : IssueLog) (sheet key : String) : (log.messages sheet key).Nodup := by
  rw [IssueLog.messages]
  cases log.places.get? ⟨sheet, key⟩ with
  | none => exact List.nodup_nil
  | some messages => exact Keyed.nodup_keys messages

/-- A message under a key that no merged row has says that a confirmation of a split course has no import row. -/
theorem stray_of_not_isNamed (hsteps : KeepsToInputs steps) (ids : Keyed String)
    (hmessage : message ∈ (outcomeWith (Backfill.fill ids) (steps.foldl submit (start imports options))).log.messages
      mergedSheetName key)
    (hkey : ¬ IsNamed (outcomeWith (Backfill.fill ids) (steps.foldl submit (start imports options))) key) :
    message = noImportRow ∧ IsStray imports.toList options.adjacencyDays (steps.flatMap said) key := by
  obtain ⟨hoptions, hrows⟩ := foldl_submit (start imports options) steps
  rw [start, List.nil_append, ← start] at hrows
  have hnamed : ∀ d ∈ resolved imports.toList (steps.flatMap said),
      naturalKey (renamed options.adjacencyDays (distinct (resolved imports.toList (steps.flatMap said))) d) ≠ key := by
    rintro d hd rfl
    refine hkey ?_
    have := isNamed_renamed (m := steps.foldl submit (start imports options)) ids (hrows ▸ hd)
    rwa [hoptions, hrows] at this
  rcases (mem_messages_outcomeWith _).1 hmessage with hbefore | ⟨-, hconflict | ⟨r, hr, hr', -⟩⟩
  · obtain ⟨hnone, r, hr, hr', hmatched⟩ := (mem_messages_start hsteps).1 hbefore
    refine ⟨hnone, r, hr, hr', hmatched, ?_⟩
    -- the row of a course that stays would have the key
    by_contra hstays
    have hd : (Resolution.of imports.toList r).row ∈ resolved imports.toList (steps.flatMap said) :=
      List.mem_map.2 ⟨r, hr, rfl⟩
    refine hnamed _ hd ?_
    rw [renamed_of_not_mem, naturalKey_row, hr']
    rwa [get_row_of_mem _ _ (by decide)]
  · obtain ⟨c, -, ⟨r, hr, -⟩, -⟩ := mem_conflicts_iff.1 hconflict
    obtain ⟨hsplit, hr'⟩ := List.mem_filter.1 hr
    rw [hrows, hoptions] at hsplit
    obtain ⟨d, hd, rfl⟩ := mem_split_iff.1 hsplit
    exact absurd (of_decide_eq_true hr') (hnamed d (mem_distinct.1 hd))
  · exact absurd ⟨r, hr, hr'⟩ hkey

/-- **A key that no merged row has is logged for one reason.** Against every campus source that answers, each key under
which a finished merge logs an issue of the merged rows is the natural key of a merged row, or it is that of a
confirmation without an import row whose course is split, and says only that. Every such key is logged. -/
theorem finish_log_names (imports : Sheet .sisImport) (options : MergeOptions) (steps : List Submission)
    (hsteps : KeepsToInputs steps) (hh : AnswersLookups h) (s : σ) :
    ∃ outcome, ((finish (steps.foldl submit (start imports options))).run h s).result = .ok outcome ∧
      (∀ key, outcome.log.messages mergedSheetName key ≠ [] → IsNamed outcome key ∨
        outcome.log.messages mergedSheetName key = [noImportRow] ∧
          IsStray imports.toList options.adjacencyDays (steps.flatMap said) key) ∧
      ∀ key, IsStray imports.toList options.adjacencyDays (steps.flatMap said) key →
        noImportRow ∈ outcome.log.messages mergedSheetName key := by
  obtain ⟨ids, t, ht⟩ := yields_finish_with hh (steps.foldl submit (start imports options)) s
  refine ⟨_, ht.result, fun key hmessages => or_iff_not_imp_left.2 fun hkey => ?_, fun key hstray => ?_⟩
  · have hstray : ∀ message ∈
        (outcomeWith (Backfill.fill ids) (steps.foldl submit (start imports options))).log.messages mergedSheetName key,
        message = noImportRow ∧ IsStray imports.toList options.adjacencyDays (steps.flatMap said) key :=
      fun _ hmessage => stray_of_not_isNamed hsteps ids hmessage hkey
    obtain ⟨message, rest, hlist⟩ := List.exists_cons_of_ne_nil hmessages
    refine ⟨?_, (hstray message (hlist ▸ List.mem_cons_self)).2⟩
    have hnodup := nodup_messages
      (outcomeWith (Backfill.fill ids) (steps.foldl submit (start imports options))).log mergedSheetName key
    rw [hlist] at hnodup hstray ⊢
    obtain rfl := (hstray message List.mem_cons_self).1
    cases rest with
    | nil => rfl
    | cons other rest =>
      have hother := (hstray other (List.mem_cons_of_mem _ List.mem_cons_self)).1
      rw [hother] at hnodup
      exact absurd List.mem_cons_self (List.nodup_cons.1 hnodup).1
  · obtain ⟨r, hr, hkey, hmatched, -⟩ := hstray
    exact (mem_messages_outcomeWith _).2 (.inl ((mem_messages_start hsteps).2 ⟨rfl, r, hr, hkey, hmatched⟩))

namespace SplitCourse

/-- A confirmation of one period. -/
def period (first last : String) : Row .courseConfirmation :=
  .ofPairs _ [(.courseId, "2015-B-91111"), (.courseName, "Theory"), (.ldapUid, "100"), (.startDate, first),
    (.endDate, last)]

/-- Two separate periods of one instructor, without an import row. -/
def calls : List Submission :=
  [.confirm (.ofRows _ [period "01-20-2015" "03-08-2015", period "03-20-2015" "05-08-2015"])]

def world : World := { now := .sinceEpoch 0 0 }

theorem keepsToInputs_calls : KeepsToInputs calls := by
  intro sheet key message hmem
  cases List.mem_singleton.1 hmem

end SplitCourse

open SplitCourse in
/-- The key of the two periods is logged, since each lacks an import row. -/
theorem finish_log_names_periods :
    KeepsToInputs calls ∧ AnswersLookups World.handler ∧
      ∃ outcome, ((finish (calls.foldl submit (start (.empty _) {}))).run World.handler world).result = .ok outcome ∧
        noImportRow ∈ outcome.log.messages mergedSheetName "2015-B-91111-100" := by
  obtain ⟨outcome, hrun, -, hlogged⟩ :=
    finish_log_names (.empty _) {} calls keepsToInputs_calls answersLookups_memory world
  refine ⟨keepsToInputs_calls, answersLookups_memory, outcome, hrun, hlogged _ ?_⟩
  exact ⟨period "01-20-2015" "03-08-2015", by decide +kernel, by decide +kernel, by decide +kernel, by decide +kernel⟩

open SplitCourse in
/-- The course is split, and neither merged row has the key under which both confirmations were logged. -/
theorem finish_logs_stray :
    KeepsToInputs calls ∧
      ∃ outcome, ((finish (calls.foldl submit (start (.empty _) {}))).run World.handler world).result = .ok outcome ∧
        outcome.log.messages mergedSheetName "2015-B-91111-100" = [noImportRow] ∧
        ∀ r ∈ outcome.merged.toList, naturalKey r ≠ "2015-B-91111-100" := by
  have hfound : (((finish (calls.foldl submit (start (.empty _) {}))).run World.handler world).result.toOption.map
      fun outcome => (outcome.log.messages mergedSheetName "2015-B-91111-100", outcome.merged.toList.map naturalKey)) =
      some ([noImportRow], ["2015-B-91111_20150308-100", "2015-B-91111_20150508-100"]) := by
    decide +kernel
  cases hrun : ((finish (calls.foldl submit (start (.empty _) {}))).run World.handler world).result with
  | error halt =>
    rw [hrun] at hfound
    cases hfound
  | ok outcome =>
    rw [hrun] at hfound
    obtain ⟨hlogged, hkeys⟩ := Prod.mk.inj (Option.some.inj hfound)
    refine ⟨keepsToInputs_calls, outcome, rfl, hlogged, fun r hr hkey => ?_⟩
    have hmem : naturalKey r ∈ outcome.merged.toList.map naturalKey := List.mem_map_of_mem hr
    rw [hkeys, hkey] at hmem
    revert hmem
    decide

end Merge

end Registrar
