import Registrar.Proofs.Evaluation.Conflicts

/-!
# Separate periods of one instructor become separate courses

Let no course ID carry a suffix, no campus ID a `-`, and let windows be written in the normal form and their days be in
order (`IsPlain`). Then no row is moved onto the ID of another row (`not_movesOnto`), and of one instructor's rows of a
split course, those that come under one ID have one window (`window_eq_of_renamed`): windows that differ are separate,
and separate windows end on different days. Windows that are equal are written with the same texts, so no rows under one
natural key disagree about their dates (`not_disagree`). A merge therefore ends with separate courses and without a
conflict about their dates (`finish_separates`).
-/

namespace Registrar.Merge

open Splitting

variable {σ : Type} {h : Handler services σ} {gap : Int} {rows : List (Row .sisImport)} {d d' : Row .sisImport}
  {id : String} {c : Column}

/-! ## Plain rows -/

/-- The course ID carries no suffix, the campus ID no `-`, dates are written in the normal form, and the first day does
not come after the last. -/
structure IsPlain {k : Kind} (r : Row k) : Prop where
  courseId : '_' ∉ (r.get .courseId).toList
  ldapUid : '-' ∉ (r.get .ldapUid).toList
  startDate : ∀ first ∈ Date.parse? (r.get .startDate), r.get .startDate = first.text
  endDate : ∀ last ∈ Date.parse? (r.get .endDate), r.get .endDate = last.text
  inOrder : ∀ first ∈ Date.parse? (r.get .startDate), ∀ last ∈ Date.parse? (r.get .endDate), first.number ≤ last.number

instance {k : Kind} (r : Row k) : Decidable (IsPlain r) :=
  decidable_of_iff
    ('_' ∉ (r.get .courseId).toList ∧ '-' ∉ (r.get .ldapUid).toList ∧
      (∀ first ∈ Date.parse? (r.get .startDate), r.get .startDate = first.text) ∧
      (∀ last ∈ Date.parse? (r.get .endDate), r.get .endDate = last.text) ∧
      ∀ first ∈ Date.parse? (r.get .startDate), ∀ last ∈ Date.parse? (r.get .endDate), first.number ≤ last.number)
    ⟨fun ⟨h₁, h₂, h₃, h₄, h₅⟩ => ⟨h₁, h₂, h₃, h₄, h₅⟩, fun ⟨h₁, h₂, h₃, h₄, h₅⟩ => ⟨h₁, h₂, h₃, h₄, h₅⟩⟩

theorem IsPlain.merged {confirmation : Row .courseConfirmation} (hplain : IsPlain confirmation)
    (imports : List (Row .sisImport)) : IsPlain (Resolution.of imports confirmation).row := by
  have hget : ∀ c ∈ Kind.courseConfirmation.columns,
      (Resolution.of imports confirmation).row.get c = confirmation.get c :=
    fun _ => get_row_of_mem imports confirmation
  constructor
  · rw [hget _ (by decide)]
    exact hplain.courseId
  · rw [hget _ (by decide)]
    exact hplain.ldapUid
  · rw [hget _ (by decide)]
    exact hplain.startDate
  · rw [hget _ (by decide)]
    exact hplain.endDate
  · rw [hget _ (by decide), hget _ (by decide)]
    exact hplain.inOrder

theorem IsPlain.window (hplain : IsPlain d) {w : Window} (hw : Window.of? d = some w) :
    d.get .startDate = w.first.text ∧ d.get .endDate = w.last.text ∧ w.first.number ≤ w.last.number := by
  obtain ⟨hfirst, hlast⟩ := Window.of?_eq_some_iff.1 hw
  exact ⟨hplain.startDate _ hfirst, hplain.endDate _ hlast, hplain.inOrder _ hfirst _ hlast⟩

theorem isPlain_of_mem_submitted {imports : Sheet .sisImport} {sheets : List (Sheet .courseConfirmation)}
    (hplain : ∀ sheet ∈ sheets, ∀ r ∈ sheet.toList, IsPlain r) (hd : d ∈ submitted imports sheets) : IsPlain d := by
  obtain ⟨r, hr, rfl⟩ := List.mem_map.1 hd
  obtain ⟨sheet, hsheet, hr⟩ := List.mem_flatMap.1 (List.mem_filter.1 hr).1
  exact (hplain sheet hsheet r hr).merged _

/-! ## Courses that are split -/

theorem naturalKey_inj {r r' : Row .sisImport} (hr : '-' ∉ (r.get .ldapUid).toList)
    (hr' : '-' ∉ (r'.get .ldapUid).toList) (heq : naturalKey r = naturalKey r') :
    r.get .courseId = r'.get .courseId ∧ r.get .ldapUid = r'.get .ldapUid :=
  CourseId.pairKey_inj hr hr' heq

/-- The rows of an ID are split where they are to be: the ID carries no suffix. -/
theorem mem_splitIds_of_split (hplain : ∀ r ∈ rows, IsPlain r)
    (hsplit : GroupDecision.of gap (group rows id) = .split) : id ∈ splitIds gap rows := by
  have hsplits := GroupDecision.of_eq_split_iff.1 hsplit
  obtain ⟨r, hr, -⟩ := hsplits.differing
  obtain ⟨hrows, rfl⟩ := mem_group_iff.1 hr
  exact mem_splitIds_iff.2 ⟨hsplits, CourseId.hasSuffix_eq_false_iff.2 (hplain r hrows).courseId⟩

theorem not_movesOnto (hplain : IsPlain d') (hd : d ∈ rows) : ¬ MovesOnto gap rows d d' := by
  intro honto
  have hsuffix := hasSuffix_of_movesOnto hd honto
  rw [CourseId.hasSuffix_eq_false_iff.2 hplain.courseId] at hsuffix
  cases hsuffix

/-- Rows come under the ID of a row of a split course only from that course. -/
theorem courseId_eq_of_renamed (hplain : ∀ r ∈ rows, IsPlain r) (hd : d ∈ rows) (hd' : d' ∈ rows)
    (heq : (renamed gap rows d).get .courseId = (renamed gap rows d').get .courseId) :
    d.get .courseId = d'.get .courseId ∧ (d.get .courseId ∈ splitIds gap rows → lastDay? d = lastDay? d') := by
  rcases (renamed_courseId_eq_iff hd hd').1 heq with hsame | honto | honto
  · exact hsame
  · exact absurd honto (not_movesOnto (hplain d' hd') hd)
  · exact absurd honto (not_movesOnto (hplain d hd) hd')

/-- The rows of one instructor that come under one ID of a split course have one window. -/
theorem window_eq_of_renamed (hgap : 0 ≤ gap) (hplain : ∀ r ∈ rows, IsPlain r) (hd : d ∈ rows) (hd' : d' ∈ rows)
    (hmem : d.get .courseId ∈ splitIds gap rows) (huid : d.get .ldapUid = d'.get .ldapUid)
    (heq : (renamed gap rows d).get .courseId = (renamed gap rows d').get .courseId) :
    ∃ w, Window.of? d = some w ∧ Window.of? d' = some w := by
  obtain ⟨hid, hlast⟩ := courseId_eq_of_renamed hplain hd hd' heq
  obtain ⟨w, hw⟩ := exists_window_of_mem_splitIds hd hmem
  obtain ⟨w', hw'⟩ := exists_window_of_mem_splitIds hd' (hid ▸ hmem)
  have hlast := hlast hmem
  rw [lastDay?, lastDay?, hw, hw', Option.map_some, Option.map_some, Option.some_inj] at hlast
  refine ⟨w, hw, ?_⟩
  rw [hw', Option.some_inj]
  -- different windows would be separate, and end on different days
  by_contra hne
  have hseparate := (mem_splitIds_iff.1 hmem).1.separate d (mem_group_iff.2 ⟨hd, rfl⟩) d'
    (mem_group_iff.2 ⟨hd', hid.symm⟩) w w' hw hw' (Ne.symm hne) huid
  exact Window.last_ne_of_isSeparateFrom hgap ((hplain d hd).window hw).2.2 ((hplain d' hd').window hw').2.2
    hseparate hlast

/-- No rows under the natural key of a row of a split course disagree about their dates. -/
theorem not_disagree (hgap : 0 ≤ gap) (hplain : ∀ r ∈ rows, IsPlain r) (hd : d ∈ rows)
    (hmem : d.get .courseId ∈ splitIds gap rows) (hc : c = .startDate ∨ c = .endDate) :
    ¬ Disagree ((split gap rows).filter fun r => naturalKey r = naturalKey (renamed gap rows d)) c := by
  have huid : ∀ e, (renamed gap rows e).get .ldapUid = e.get .ldapUid :=
    fun _ => get_renamed_of_ne (by decide) (by decide)
  -- every row under the key has the texts of `d`
  have hsame : ∀ r ∈ (split gap rows).filter fun r => naturalKey r = naturalKey (renamed gap rows d),
      r.get c = d.get c := by
    intro r hr
    obtain ⟨hsplit, hkey⟩ := List.mem_filter.1 hr
    obtain ⟨e, he, rfl⟩ := mem_split_iff.1 hsplit
    obtain ⟨hids, huids⟩ := naturalKey_inj (huid e ▸ (hplain e he).ldapUid) (huid d ▸ (hplain d hd).ldapUid)
      (of_decide_eq_true hkey)
    rw [huid, huid] at huids
    obtain ⟨w, hw, hw'⟩ := window_eq_of_renamed hgap hplain hd he hmem huids.symm hids.symm
    obtain ⟨hstart, hend, -⟩ := (hplain d hd).window hw
    obtain ⟨hstart', hend', -⟩ := (hplain e he).window hw'
    rcases hc with rfl | rfl
    · rw [get_renamed_of_ne (by decide) (by decide), hstart, hstart']
    · rw [get_renamed_of_ne (by decide) (by decide), hend, hend']
  rintro ⟨r, hr, r', hr', -, -, hne⟩
  exact hne (by rw [hsame r hr, hsame r' hr'])

/-! ## Merged rows -/

section Merged

variable {options : MergeOptions} (ids : Keyed String)

theorem get_settled_eq (d : Row .sisImport) (hc : c = .ldapUid ∨ c = .startDate ∨ c = .endDate) :
    (settled options (Backfill.fill ids) rows d).get c = d.get c := by
  rcases hc with rfl | rfl | rfl
  all_goals rw [get_settled_of_ne _ _ _ _ (by decide) (by decide), get_renamed_of_ne (by decide) (by decide)]

theorem window_settled (d : Row .sisImport) :
    Window.of? (settled options (Backfill.fill ids) rows d) = Window.of? d :=
  Window.of?_congr (get_settled_eq ids d (.inr (.inl rfl)))
    (get_settled_eq ids d (.inr (.inr rfl)))

theorem naturalKey_settled (d : Row .sisImport) :
    naturalKey (settled options (Backfill.fill ids) rows d) = naturalKey (renamed options.adjacencyDays rows d) := by
  rw [naturalKey, naturalKey, get_settled_of_ne _ _ _ _ (by decide) (by decide),
    get_settled_of_ne _ _ _ _ (by decide) (by decide)]

/-- What becomes of one instructor's rows of a split course with different windows has different course IDs. -/
theorem courseId_settled_ne (hgap : 0 ≤ options.adjacencyDays) (hplain : ∀ r ∈ rows, IsPlain r) (hd : d ∈ rows)
    (hd' : d' ∈ rows) (hmem : d.get .courseId ∈ splitIds options.adjacencyDays rows)
    (huid : d.get .ldapUid = d'.get .ldapUid) (hwindow : Window.of? d ≠ Window.of? d') :
    (settled options (Backfill.fill ids) rows d).get .courseId ≠
      (settled options (Backfill.fill ids) rows d').get .courseId := by
  intro heq
  rw [get_settled_of_ne _ _ _ _ (by decide) (by decide), get_settled_of_ne _ _ _ _ (by decide) (by decide)] at heq
  obtain ⟨w, hw, hw'⟩ := window_eq_of_renamed hgap hplain hd hd' hmem huid heq
  exact hwindow (hw.trans hw'.symm)

end Merged

/-! ## The whole merge -/

/-- What became of the rows of a course, each row beside the merged row: rows of one instructor with different windows
have different course IDs, and no conflict about the dates is logged under the natural key of one of them. -/
structure PeriodsApart (rows : List (Row .sisImport)) (outcome : MergeOutcome) (id : String) : Prop where
  courseId_ne : ∀ p ∈ rows.zip outcome.merged.toList, ∀ q ∈ rows.zip outcome.merged.toList,
    p.1.get .courseId = id → q.1.get .courseId = id → p.2.get .ldapUid = q.2.get .ldapUid →
      Window.of? p.2 ≠ Window.of? q.2 → p.2.get .courseId ≠ q.2.get .courseId
  no_conflict : ∀ p ∈ rows.zip outcome.merged.toList, p.1.get .courseId = id →
    ¬ HasConflict outcome.log (naturalKey p.2) .startDate ∧ ¬ HasConflict outcome.log (naturalKey p.2) .endDate

/-- **Separate periods of one instructor become separate courses.** Where confirmations are plain and the largest gap is
not negative, every merge ends with one row for each distinct submitted row, and the periods of every course whose rows
are to be split are apart. -/
theorem finish_separates (imports : Sheet .sisImport) (options : MergeOptions)
    (sheets : List (Sheet .courseConfirmation)) (hgap : 0 ≤ options.adjacencyDays)
    (hplain : ∀ sheet ∈ sheets, ∀ r ∈ sheet.toList, IsPlain r) (hh : AnswersLookups h) (s : σ) :
    let rows := (submitted imports sheets).eraseDups
    ∃ outcome, ((finish (sheets.foldl add (start imports options))).run h s).result = .ok outcome ∧
      List.Forall₂ Keeps rows outcome.merged.toList ∧
      ∀ id, GroupDecision.of options.adjacencyDays (group rows id) = .split → PeriodsApart rows outcome id := by
  intro rows
  have hrows : distinct (submitted imports sheets) = rows := distinct_eq_eraseDups _
  have hplain : ∀ r ∈ rows, IsPlain r := fun r hr => isPlain_of_mem_submitted hplain (List.mem_eraseDups.1 hr)
  obtain ⟨ids, t, ht⟩ := yields_finish_with hh (sheets.foldl add (start imports options)) s
  have hmerged := toList_outcomeWith (Backfill.fill ids) (sheets.foldl add (start imports options))
  rw [rows_addAll, (foldl_add _ sheets).1, hrows] at hmerged
  refine ⟨_, ht.result, ?_, fun id hsplit => ?_⟩
  · rw [hmerged, List.forall₂_map_right_iff, List.forall₂_same]
    exact fun d _ => keeps_settled options ids rows d
  have hids := mem_splitIds_of_split hplain hsplit
  constructor
  · rw [hmerged]
    rintro ⟨d, r⟩ hp ⟨d', r'⟩ hq rfl - huid hwindow
    obtain ⟨hd, rfl⟩ := mem_zip_map_iff.1 hp
    obtain ⟨hd', rfl⟩ := mem_zip_map_iff.1 hq
    have huids : d.get .ldapUid = d'.get .ldapUid := by
      rwa [get_settled_eq ids d (.inl rfl), get_settled_eq ids d' (.inl rfl)] at huid
    have hwindows : Window.of? d ≠ Window.of? d' := by rwa [window_settled, window_settled] at hwindow
    exact courseId_settled_ne ids hgap hplain hd hd' hids huids hwindows
  · rw [hmerged]
    rintro ⟨d, r⟩ hp rfl
    obtain ⟨hd, rfl⟩ := mem_zip_map_iff.1 hp
    rw [hasConflict_merge_iff, hasConflict_merge_iff, hrows, naturalKey_settled]
    exact ⟨fun hconflict => not_disagree hgap hplain hd hids (.inl rfl) hconflict.2,
      fun hconflict => not_disagree hgap hplain hd hids (.inr rfl) hconflict.2⟩

/-- Two periods of one instructor, and a third one of another instructor that overlaps both, are confirmed in two
sheets: the course is split, and the periods of the first instructor are apart. -/
theorem finish_separates_periods :
    let row (uid first last : String) : Row .courseConfirmation :=
      .ofPairs _ [(.courseId, "A"), (.ldapUid, uid), (.startDate, first), (.endDate, last)]
    let sheets : List (Sheet .courseConfirmation) :=
      [.ofRows _ [row "1" "01-20-2015" "03-08-2015", row "2" "02-20-2015" "05-08-2015"],
        .ofRows _ [row "1" "03-20-2015" "05-08-2015"]]
    let rows := (submitted (.empty _) sheets).eraseDups
    let world : World := { now := ⟨.epoch, 0, 0, by decide⟩ }
    (0 : Int) ≤ ({} : MergeOptions).adjacencyDays ∧ (∀ sheet ∈ sheets, ∀ r ∈ sheet.toList, IsPlain r) ∧
      AnswersLookups World.handler ∧ GroupDecision.of 1 (group rows "A") = .split ∧
      ∃ outcome, ((finish (sheets.foldl add (start (.empty _) {}))).run World.handler world).result = .ok outcome ∧
        PeriodsApart rows outcome "A" := by
  intro row sheets rows world
  have hplain : ∀ sheet ∈ sheets, ∀ r ∈ sheet.toList, IsPlain r := by decide +kernel
  have hsplit : GroupDecision.of 1 (group rows "A") = .split := by decide +kernel
  obtain ⟨outcome, hrun, -, hcourses⟩ :=
    finish_separates (.empty _) {} sheets (by decide) hplain answersLookups_memory world
  exact ⟨by decide, hplain, answersLookups_memory, hsplit, outcome, hrun, hcourses "A" hsplit⟩

end Registrar.Merge
