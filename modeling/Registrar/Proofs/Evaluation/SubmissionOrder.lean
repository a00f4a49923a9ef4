import Registrar.Proofs.Evaluation.Conflicts

/-!
# The order of submissions does not matter

Which course IDs are split depends on which rows there are, not on their order (`mem_splitIds_congr`), so the split
makes of each row the same (`renamed_congr`). From a source that serves a feed and refuses nothing, what is filled in
depends on the row alone (`yields_finish_of_feed`). So a merge makes of a row the same in whatever order confirmations
are submitted, and conflicts do not depend on an order at all (`finish_perm`).
-/

namespace Registrar

/-! ## Splits of the same rows -/

namespace Splitting

variable {gap : Int} {rows rows' : List (Row .sisImport)} {r : Row .sisImport} {id : String}

theorem mem_splitIds_of_mem_iff (hmem : ∀ r, r ∈ rows ↔ r ∈ rows') (h : id ∈ splitIds gap rows) :
    id ∈ splitIds gap rows' := by
  obtain ⟨hsplits, hplain⟩ := mem_splitIds_iff.1 h
  refine mem_splitIds_iff.2 ⟨hsplits.congr fun r => ?_, hplain⟩
  rw [mem_group_iff, mem_group_iff, hmem]

theorem mem_splitIds_congr (hmem : ∀ r, r ∈ rows ↔ r ∈ rows') : id ∈ splitIds gap rows ↔ id ∈ splitIds gap rows' :=
  ⟨mem_splitIds_of_mem_iff hmem, mem_splitIds_of_mem_iff fun r => (hmem r).symm⟩

theorem renamed_congr (hmem : ∀ r, r ∈ rows ↔ r ∈ rows') : renamed gap rows = renamed gap rows' := by
  funext r
  unfold renamed
  by_cases h : r.get .courseId ∈ splitIds gap rows
  · rw [if_pos h, if_pos ((mem_splitIds_congr hmem).1 h)]
  · rw [if_neg h, if_neg fun h' => h ((mem_splitIds_congr hmem).2 h')]

theorem mem_split_congr (hmem : ∀ r, r ∈ rows ↔ r ∈ rows') : r ∈ split gap rows ↔ r ∈ split gap rows' := by
  rw [mem_split_iff, mem_split_iff, renamed_congr hmem]
  exact exists_congr fun d => and_congr_left fun _ => hmem d

end Splitting

/-! ## Merges of the same rows -/

namespace Merge

variable {σ τ : Type} {h : Handler services σ} {h' : Handler services τ} {feed : List Person}
  {sheets sheets' : List (Sheet .courseConfirmation)} {key : String} {c : Column}

/-- Where no lookup is refused, a merge is a map over its distinct rows that depends on the feed alone. -/
theorem yields_finish_of_feed (hf : ServesFeed h feed) (hn : NeverRefuses h) (m : Merge) (s : σ) :
    ∃ t, (finish m).Yields h s (outcomeWith (Backfill.supply feed) m) t := by
  obtain ⟨n, t, ht⟩ := Backfill.yields_run_of_feed hf hn m.options.batchSize (flagged m) s
  exact ⟨t, yields_finish_of_backfill ht⟩

theorem submitted_perm (imports : Sheet .sisImport)
    (hperm : (sheets.flatMap Sheet.toList).Perm (sheets'.flatMap Sheet.toList)) :
    (submitted imports sheets).Perm (submitted imports sheets') :=
  (hperm.filter _).map _

/-- What is made of rows depends on which rows there are alone. -/
theorem map_settled_perm (options : MergeOptions) (fill : Row .sisImport → Row .sisImport)
    {rows rows' : List (Row .sisImport)} (hmem : ∀ r, r ∈ rows ↔ r ∈ rows') :
    ((distinct rows).map (settled options fill (distinct rows))).Perm
      ((distinct rows').map (settled options fill (distinct rows'))) := by
  have hdistinct : ∀ r, r ∈ distinct rows ↔ r ∈ distinct rows' := fun r => by rw [mem_distinct, mem_distinct, hmem]
  have hsettled : settled options fill (distinct rows) = settled options fill (distinct rows') := by
    funext r
    rw [settled, settled, Splitting.renamed_congr hdistinct]
  rw [hsettled]
  exact (distinct_perm hmem).map _

theorem disagree_split_of_mem_iff {gap : Int} {rows rows' : List (Row .sisImport)} (hmem : ∀ r, r ∈ rows ↔ r ∈ rows')
    (hdisagree : Disagree ((Splitting.split gap rows).filter fun r => naturalKey r = key) c) :
    Disagree ((Splitting.split gap rows').filter fun r => naturalKey r = key) c := by
  refine hdisagree.mono fun r hr => ?_
  rw [List.mem_filter] at hr ⊢
  exact ⟨(Splitting.mem_split_congr hmem).1 hr.1, hr.2⟩

/-- **The order of submissions does not matter.** Let the confirmations of some sheets be those of others, in whatever
order and division into sheets, and let the campus sources of two merges serve one feed and refuse nothing. Then both
merges end, with the same rows, each as often, and with conflicts about the same columns under the same natural keys. -/
theorem finish_perm (imports : Sheet .sisImport) (options : MergeOptions)
    (sheets sheets' : List (Sheet .courseConfirmation))
    (hperm : (sheets.flatMap Sheet.toList).Perm (sheets'.flatMap Sheet.toList))
    (hf : ServesFeed h feed) (hn : NeverRefuses h) (hf' : ServesFeed h' feed) (hn' : NeverRefuses h') (s : σ) (s' : τ) :
    ∃ outcome outcome',
      ((finish (sheets.foldl add (start imports options))).run h s).result = .ok outcome ∧
        ((finish (sheets'.foldl add (start imports options))).run h' s').result = .ok outcome' ∧
        outcome.merged.toList.Perm outcome'.merged.toList ∧
        ∀ key c, HasConflict outcome.log key c ↔ HasConflict outcome'.log key c := by
  obtain ⟨t, ht⟩ := yields_finish_of_feed hf hn (sheets.foldl add (start imports options)) s
  obtain ⟨t', ht'⟩ := yields_finish_of_feed hf' hn' (sheets'.foldl add (start imports options)) s'
  have hmem : ∀ r, r ∈ submitted imports sheets ↔ r ∈ submitted imports sheets' :=
    fun r => (submitted_perm imports hperm).mem_iff
  have hdistinct : ∀ r, r ∈ distinct (submitted imports sheets) ↔ r ∈ distinct (submitted imports sheets') :=
    fun r => by rw [mem_distinct, mem_distinct, hmem]
  refine ⟨_, _, ht.result, ht'.result, ?_, fun key c => ?_⟩
  · rw [toList_outcomeWith, toList_outcomeWith, rows_addAll, rows_addAll, (foldl_add _ sheets).1,
      (foldl_add _ sheets').1]
    exact map_settled_perm options (Backfill.supply feed) hmem
  · rw [hasConflict_merge_iff, hasConflict_merge_iff]
    exact and_congr_right fun _ =>
      ⟨disagree_split_of_mem_iff hdistinct, disagree_split_of_mem_iff fun r => (hdistinct r).symm⟩

/-- Three confirmations of one course come in another order and from other departments, and the feed tells of one of the
two instructors twice. -/
theorem finish_perm_swapped :
    let row (uid first last : String) : Row .courseConfirmation :=
      .ofPairs _ [(.courseId, "A"), (.ldapUid, uid), (.startDate, first), (.endDate, last)]
    let spring := row "1" "01-20-2015" "03-08-2015"
    let late := row "1" "03-20-2015" "05-08-2015"
    let other := row "2" "02-20-2015" "05-08-2015"
    let sheets : List (Sheet .courseConfirmation) := [.ofRows _ [spring, other], .ofRows _ [late]]
    let sheets' : List (Sheet .courseConfirmation) := [.ofRows _ [late], .ofRows _ [other, spring]]
    let options : MergeOptions := { batchSize := 1 }
    let feed : List Person := [{ uid := "1" }, { uid := " 1", studentId := some "77", student := true }]
    let campus := countingLookups feed fun _ => false
    (sheets.flatMap Sheet.toList).Perm (sheets'.flatMap Sheet.toList) ∧ ServesFeed campus feed ∧ NeverRefuses campus ∧
      ∃ outcome outcome',
        ((finish (sheets.foldl add (start (.empty _) options))).run campus 0).result = .ok outcome ∧
          ((finish (sheets'.foldl add (start (.empty _) options))).run campus 0).result = .ok outcome' ∧
          outcome.merged.toList.Perm outcome'.merged.toList ∧
          ∀ key c, HasConflict outcome.log key c ↔ HasConflict outcome'.log key c := by
  intro row spring late other sheets sheets' options feed campus
  have hperm : (sheets.flatMap Sheet.toList).Perm (sheets'.flatMap Sheet.toList) := by decide +kernel
  have hf : ServesFeed campus feed := servesFeed_countingLookups feed _
  have hn : NeverRefuses campus := neverRefuses_countingLookups feed
  exact ⟨hperm, hf, hn, finish_perm (.empty _) options sheets sheets' hperm hf hn hf hn 0 0⟩

end Merge

end Registrar
