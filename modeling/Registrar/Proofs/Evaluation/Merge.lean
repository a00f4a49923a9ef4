import Mathlib.Data.List.Forall2
import Registrar.Proofs.Evaluation.Backfill
import Registrar.Proofs.Evaluation.Slot
import Registrar.Proofs.Evaluation.Splitting

/-!
# A merge loses and duplicates nothing

The rows of a merge are those that the confirmations submit (`rows_addAll`). After the removal of repeated rows a merge
is a map over them (`yields_finish_with`), and what it makes of a row keeps the row up to its course IDs, its modular
flag and a SIS ID that was blank (`keeps_settled`). Entering a row adds it under the first free slot of its natural key
and leaves the others alone (`entries_enter`). So the merged sheet has one row for each distinct submitted row, in the
order of submission (`finish_keeps`).
-/

namespace Registrar.Merge

variable {σ : Type} {h : Handler services σ} {r d e : Row .sisImport}

/-! ## What a row keeps -/

/-- The columns that a merge may change. -/
def mergeColumns : List Column := [.courseId, .courseId2, .modularCourse, .sisId]

/-- `r` is `d` up to the columns that a merge may change; a SIS ID changes only where it was blank. -/
structure Keeps (d r : Row .sisImport) : Prop where
  other : ∀ c, c ∉ mergeColumns → r.get c = d.get c
  sisId : r.get .sisId ≠ d.get .sisId → d.isBlankAt .sisId = true

theorem Keeps.refl (d : Row .sisImport) : Keeps d d := ⟨fun _ _ => rfl, fun hne => absurd rfl hne⟩

theorem Keeps.trans (h₁ : Keeps d e) (h₂ : Keeps e r) : Keeps d r := by
  refine ⟨fun c hc => (h₂.other c hc).trans (h₁.other c hc), fun hne => ?_⟩
  by_cases he : e.get .sisId = d.get .sisId
  · have hb := h₂.sisId (he ▸ hne)
    rwa [Row.isBlankAt, he] at hb
  · exact h₁.sisId he

/-- A row that differs in its course IDs and its modular flag at most is kept. -/
theorem keeps_of_get_eq (h : ∀ c, c ∉ mergeColumns ∨ c = .sisId → r.get c = d.get c) : Keeps d r :=
  ⟨fun c hc => h c (.inl hc), fun hne => absurd (h .sisId (.inr rfl)) hne⟩

theorem keeps_renamed (gap : Int) (rows : List (Row .sisImport)) (d : Row .sisImport) :
    Keeps d (Splitting.renamed gap rows d) := by
  apply keeps_of_get_eq
  intro c hc
  apply Splitting.get_renamed_of_ne
  · rintro rfl
    revert hc
    decide
  · rintro rfl
    revert hc
    decide

/-- The row with its modular flag, when the term's window is known. -/
def flag (options : MergeOptions) (r : Row .sisImport) : Row .sisImport :=
  match options.termStart, options.termEnd with
  | some start, some finish => flagModular start finish r
  | _, _ => r

theorem flagAll_eq_map (options : MergeOptions) (rows : List (Row .sisImport)) :
    flagAll options rows = rows.map (flag options) := by
  obtain ⟨termStart, termEnd, gap, batchSize⟩ := options
  cases termStart with
  | none => exact (List.map_id' rows).symm
  | some start =>
    cases termEnd with
    | none => exact (List.map_id' rows).symm
    | some finish => rfl

theorem get_flag_of_ne (options : MergeOptions) (d : Row .sisImport) {c : Column} (hc : c ≠ .modularCourse) :
    (flag options d).get c = d.get c := by
  unfold flag flagModular
  split
  · split
    · rfl
    · exact Row.get_set_of_ne _ _ hc
  · rfl

theorem keeps_flag (options : MergeOptions) (d : Row .sisImport) : Keeps d (flag options d) := by
  apply keeps_of_get_eq
  intro c hc
  apply get_flag_of_ne
  rintro rfl
  revert hc
  decide

theorem keeps_fill (ids : Keyed String) (d : Row .sisImport) : Keeps d (Backfill.fill ids d) := by
  unfold Backfill.fill
  split
  · rename_i id hid
    refine ⟨fun c hc => Row.get_set_of_ne d id fun he => hc (he ▸ by decide), fun _ => ?_⟩
    unfold Backfill.filling? at hid
    split at hid
    · assumption
    · cases hid
  · exact .refl d

/-- Each row of a list with what it has become, in the same place. -/
def KeepsAll (ds rows : List (Row .sisImport)) : Prop := List.Forall₂ Keeps ds rows

/-! ## The rows of a merge -/

/-- What a list of confirmation sheets submits: the merged row of every confirmation that says something. -/
def submitted (imports : Sheet .sisImport) (sheets : List (Sheet .courseConfirmation)) : List (Row .sisImport) :=
  ((sheets.flatMap Sheet.toList).filter fun r => !(r.isBlankAt .courseId && r.isBlankAt .ldapUid)).map fun r =>
    (Resolution.of imports.toList r).row

/-- A merged row says what the confirmation says, wherever that has a column for it. -/
theorem get_row_of_mem (imports : List (Row .sisImport)) (confirmation : Row .courseConfirmation) {c : Column}
    (hc : c ∈ Kind.courseConfirmation.columns) :
    (Resolution.of imports confirmation).row.get c = confirmation.get c := by
  have hboth : ∀ c ∈ Kind.courseConfirmation.columns, c ∈ Kind.sisImport.columns ∧ c ≠ .courseId2 ∧ c ≠ .deptName ∧
      c ≠ .catalogId ∧ c ≠ .instructionFormat ∧ c ≠ .sectionNum ∧ c ≠ .primarySecondaryCd := by decide
  obtain ⟨himport, hid, hdept, hcatalog, hformat, hsection, hprimary⟩ := hboth c hc
  unfold Resolution.of
  split
  · rw [Resolution.row, Row.get_overlay, if_pos ⟨himport, hc⟩]
  · unfold Resolution.row
    dsimp only
    split
    · rw [CourseName.enter, Row.get_set_of_ne _ _ hprimary, Row.get_set_of_ne _ _ hsection,
        Row.get_set_of_ne _ _ hformat, Row.get_set_of_ne _ _ hcatalog, Row.get_set_of_ne _ _ hdept,
        Row.get_set_of_ne _ _ hid, Row.get_project _ himport hc]
    · rw [Row.get_set_of_ne _ _ hid, Row.get_project _ himport hc]

theorem foldl_addRow (m : Merge) (confirmations : List (Row .courseConfirmation)) :
    (confirmations.foldl addRow m).imports = m.imports ∧ (confirmations.foldl addRow m).options = m.options ∧
      (confirmations.foldl addRow m).rows = m.rows ++ confirmations.map fun r => (Resolution.of m.imports r).row := by
  induction confirmations generalizing m with
  | nil => exact ⟨rfl, rfl, (List.append_nil _).symm⟩
  | cons r rest ih =>
    obtain ⟨himports, hoptions, hrows⟩ := ih (addRow m r)
    refine ⟨himports, hoptions, ?_⟩
    rw [List.foldl_cons, hrows, List.map_cons]
    exact List.append_assoc _ _ _

theorem foldl_add_eq (m : Merge) (sheets : List (Sheet .courseConfirmation)) :
    sheets.foldl add m = (sheets.flatMap spoken).foldl addRow m := List.foldl_flatMap.symm

theorem foldl_add (m : Merge) (sheets : List (Sheet .courseConfirmation)) :
    (sheets.foldl add m).options = m.options ∧
      (sheets.foldl add m).rows =
        m.rows ++ (sheets.flatMap spoken).map fun r => (Resolution.of m.imports r).row := by
  obtain ⟨-, hoptions, hrows⟩ := foldl_addRow m (sheets.flatMap spoken)
  rw [foldl_add_eq]
  exact ⟨hoptions, hrows⟩

theorem rows_addAll (imports : Sheet .sisImport) (options : MergeOptions) (sheets : List (Sheet .courseConfirmation)) :
    (sheets.foldl add (start imports options)).rows = submitted imports sheets := by
  rw [(foldl_add _ sheets).2, submitted, List.filter_flatMap]
  rfl

/-! ## Entering rows -/

theorem entries_enter (outcome : MergeOutcome) (r : Row .sisImport) :
    (enter outcome r).merged.entries =
      outcome.merged.entries ++ [(freeSlot outcome.merged.rows.keys (naturalKey r), r)] := by
  obtain ⟨-, -, hfree, -⟩ := freeSlot_spec outcome.merged.rows.keys (naturalKey r)
  exact Keyed.entries_insert_of_not_mem r hfree

/-- Every row stands under the first slot of its natural key that the rows before it leave free. -/
def Slotted (entries : List (String × Row .sisImport)) : Prop :=
  ∀ before slot r after, entries = before ++ (slot, r) :: after →
    IsFirstFree (before.map Prod.fst) (naturalKey r) slot

theorem slotted_enter {outcome : MergeOutcome} (hs : Slotted outcome.merged.entries) (r : Row .sisImport) :
    Slotted (enter outcome r).merged.entries := by
  intro before slot r' after he
  rw [entries_enter] at he
  rcases List.eq_nil_or_concat after with rfl | ⟨after', last, rfl⟩
  · obtain ⟨hbefore, hlast⟩ := List.append_inj' he rfl
    injection hlast with hlast
    injection hlast with hslot hr
    rw [← hbefore, ← hslot, ← hr]
    exact freeSlot_spec _ _
  · rw [List.concat_eq_append, ← List.cons_append, ← List.append_assoc] at he
    exact hs before slot r' after' (List.append_inj' he rfl).1

theorem enterAll (rows : List (Row .sisImport)) (outcome : MergeOutcome) (hs : Slotted outcome.merged.entries) :
    (rows.foldl enter outcome).merged.toList = outcome.merged.toList ++ rows ∧
      Slotted (rows.foldl enter outcome).merged.entries := by
  induction rows generalizing outcome with
  | nil => exact ⟨(List.append_nil _).symm, hs⟩
  | cons r rest ih =>
    obtain ⟨hrows, hslots⟩ := ih (enter outcome r) (slotted_enter hs r)
    refine ⟨?_, hslots⟩
    have henter : (enter outcome r).merged.toList = outcome.merged.toList ++ [r] := by
      show (enter outcome r).merged.entries.map Prod.snd = _
      rw [entries_enter, List.map_append]
      rfl
    rw [List.foldl_cons, hrows, henter, List.append_assoc]
    rfl

/-! ## The whole merge -/

/-- What a merge of some rows makes of one of them, with a back-fill that fills in like this. -/
def settled (options : MergeOptions) (fill : Row .sisImport → Row .sisImport) (rows : List (Row .sisImport))
    (r : Row .sisImport) : Row .sisImport :=
  fill (flag options (Splitting.renamed options.adjacencyDays rows r))

theorem keeps_settled (options : MergeOptions) (ids : Keyed String) (rows : List (Row .sisImport))
    (d : Row .sisImport) : Keeps d (settled options (Backfill.fill ids) rows d) :=
  ((keeps_renamed _ rows d).trans (keeps_flag options _)).trans (keeps_fill ids _)

/-- After the split only the modular flag and the SIS ID change. -/
theorem get_settled_of_ne (options : MergeOptions) (ids : Keyed String) (rows : List (Row .sisImport))
    (d : Row .sisImport) {c : Column} (hc : c ≠ .modularCourse) (hc' : c ≠ .sisId) :
    (settled options (Backfill.fill ids) rows d).get c =
      (Splitting.renamed options.adjacencyDays rows d).get c := by
  rw [settled, Backfill.get_fill_of_ne ids _ hc', get_flag_of_ne options _ hc]

/-- The outcome of a merge with a back-fill that fills in like this. -/
def outcomeWith (fill : Row .sisImport → Row .sisImport) (m : Merge) : MergeOutcome :=
  let rows := distinct m.rows
  (rows.map (settled m.options fill rows)).foldl enter
    ⟨Sheet.named _ mergedExportName, reportConflicts (Splitting.split m.options.adjacencyDays rows) m.log⟩

/-- The rows that are filled in. -/
def flagged (m : Merge) : List (Row .sisImport) :=
  flagAll m.options (Splitting.split m.options.adjacencyDays (distinct m.rows))

theorem map_flagged (fill : Row .sisImport → Row .sisImport) (m : Merge) :
    (flagged m).map fill = (distinct m.rows).map (settled m.options fill (distinct m.rows)) := by
  rw [flagged, flagAll_eq_map, Splitting.split_eq_map, List.map_map, List.map_map]
  rfl

/-- A merge ends as its back-fill does. -/
theorem yields_finish_of_backfill {m : Merge} {fill : Row .sisImport → Row .sisImport} {n : Nat} {s t : σ}
    (hrun : (Backfill.run m.options.batchSize (flagged m)).Yields h s ((flagged m).map fill, n) t) :
    (finish m).Yields h s (outcomeWith fill m) t := by
  rw [map_flagged] at hrun
  unfold finish
  refine .bind (Program.yields_logAll _ _ _) ?_
  dsimp only
  split
  · exact .bind (Program.yields_log _ _ _) (.bind hrun (Program.yields_pure _ _ _))
  · exact .bind hrun (Program.yields_pure _ _ _)

/-- A merge is a map over the distinct rows. -/
theorem yields_finish_with (hh : AnswersLookups h) (m : Merge) (s : σ) :
    ∃ ids t, (finish m).Yields h s (outcomeWith (Backfill.fill ids) m) t := by
  obtain ⟨ids, n, t, ht⟩ := Backfill.yields_run hh m.options.batchSize (flagged m) s
  exact ⟨ids, t, yields_finish_of_backfill ht⟩

theorem slotted_named : Slotted (Sheet.named .sisImport mergedExportName).entries := by
  intro before slot r after he
  cases before <;> cases he

theorem toList_outcomeWith (fill : Row .sisImport → Row .sisImport) (m : Merge) :
    (outcomeWith fill m).merged.toList = (distinct m.rows).map (settled m.options fill (distinct m.rows)) :=
  (enterAll _ _ slotted_named).1

theorem yields_finish (hh : AnswersLookups h) (m : Merge) (s : σ) :
    ∃ rows log t, (finish m).Yields h s (rows.foldl enter ⟨Sheet.named _ mergedExportName, log⟩) t ∧
      KeepsAll (distinct m.rows) rows := by
  obtain ⟨ids, t, ht⟩ := yields_finish_with hh m s
  refine ⟨_, _, t, ht, ?_⟩
  rw [KeepsAll, List.forall₂_map_right_iff, List.forall₂_same]
  exact fun d _ => keeps_settled m.options ids (distinct m.rows) d

/-- **A merge loses and duplicates nothing.** Against every campus source that answers, a merge ends with one row for
each distinct submitted row, in the order of submission and under a key of its own; a row differs from what was
submitted in its course IDs, its modular flag and a SIS ID that was blank at most. Every row stands under the first slot
of its natural key that was free. -/
theorem finish_keeps (imports : Sheet .sisImport) (options : MergeOptions) (sheets : List (Sheet .courseConfirmation))
    (hh : AnswersLookups h) (s : σ) :
    ∃ outcome, ((finish (sheets.foldl add (start imports options))).run h s).result = .ok outcome ∧
      outcome.merged.size = (submitted imports sheets).eraseDups.length ∧
      outcome.merged.rows.keys.Nodup ∧
      List.Forall₂ Keeps (submitted imports sheets).eraseDups outcome.merged.toList ∧
      Slotted outcome.merged.entries := by
  obtain ⟨rows, log, t, hrun, hk⟩ := yields_finish hh (sheets.foldl add (start imports options)) s
  rw [rows_addAll, distinct_eq_eraseDups] at hk
  obtain ⟨hrows, hslots⟩ := enterAll rows ⟨Sheet.named _ mergedExportName, log⟩ slotted_named
  have hsize : (rows.foldl enter ⟨Sheet.named _ mergedExportName, log⟩).merged.size = rows.length :=
    (List.length_map Prod.snd).symm.trans (congrArg List.length hrows)
  refine ⟨_, hrun.result, hsize.trans hk.length_eq.symm, Keyed.nodup_keys _, ?_, hslots⟩
  rw [hrows]
  exact hk

/-- Two departments confirm one course and instructor with different names, and the campus ID of a third confirmation
looks like the second slot of their key: the merge holds all three rows, the repeated one once. -/
theorem finish_keeps_lookalike :
    let first : Row .courseConfirmation := .ofPairs _ [(.courseId, "A"), (.ldapUid, "1"), (.firstName, "Ann")]
    let lookalike : Row .courseConfirmation := .ofPairs _ [(.courseId, "A"), (.ldapUid, "1 (2)")]
    let second : Row .courseConfirmation := .ofPairs _ [(.courseId, "A"), (.ldapUid, "1"), (.firstName, "Bo")]
    let sheets : List (Sheet .courseConfirmation) := [.ofRows _ [first, lookalike], .ofRows _ [second, first]]
    let world : World := { now := ⟨.epoch, 0, 0, by decide⟩ }
    AnswersLookups World.handler ∧
      ∃ outcome, ((finish (sheets.foldl add (start (.empty _) {}))).run World.handler world).result = .ok outcome ∧
        outcome.merged.size = 3 ∧ Slotted outcome.merged.entries := by
  intro first lookalike second sheets world
  obtain ⟨outcome, hrun, hsize, -, -, hslots⟩ := finish_keeps (.empty _) {} sheets answersLookups_memory world
  have hthree : (submitted (.empty _) sheets).eraseDups.length = 3 := by decide
  exact ⟨answersLookups_memory, outcome, hrun, hsize.trans hthree, hslots⟩

end Registrar.Merge
