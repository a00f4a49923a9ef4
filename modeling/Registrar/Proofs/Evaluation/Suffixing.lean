import Mathlib.Data.List.Forall2
import Registrar.Proofs.Evaluation.Publication
import Registrar.Proofs.Evaluation.Splitting

/-!
# What a suffix leaves as it is

A split writes the stamp of a day behind a course ID. The new ID names the same term and section and fits the grammar if
the old one did, a second ID goes along exactly where it was the same, and the other cells stay (`isSuffixed_suffixed`).
This becomes of every row whose ID is split, and the others stay (`split_suffixes`). A published course states the
section of its ID, so courses of one section are matched with the same enrollments, whatever their suffixes are
(`attendedAlike_of_split?_eq`).

A second split finds nothing to do (`split_again`). It would split only IDs without a suffix, and under such an ID there
are the rows that were there before, or none if the ID has been split (`mem_group_split_iff`).
-/

namespace Registrar

/-! ## Sections of published courses -/

namespace Publication

variable {rows : List (Row .sisImport)} {id id' ccn : String}

/-- The section that a course is published with. -/
def sectionOf (id : String) : String := ((CourseId.split? id).map Prod.snd).getD ""

theorem get_courseOf_sectionId (r : Row .sisImport) : (courseOf r).get .sectionId = sectionOf (r.get .courseId) := by
  rw [courseOf, sectionOf]
  split
  · rename_i hsplit
    rw [hsplit, Row.get_set_self _ _ (by decide)]
    rfl
  · rename_i hsplit
    rw [hsplit, Row.get_set_of_ne _ _ (by decide), Row.get_set_of_ne _ _ (by decide), Row.project, Row.get_overlay,
      if_neg (by decide), Row.get_blank]
    rfl

theorem get_sectionId_of_mem_coursesOf {c : Row .courses} (hc : c ∈ (coursesOf rows).toList) :
    c.get .sectionId = sectionOf (c.get .courseId) := by
  obtain ⟨x, hx⟩ := Sheet.mem_toList_iff.1 hc
  rw [coursesOf, Sheet.foldl_insertNew] at hx
  refine Sheet.of_get?_enterAll (P := fun _ c => c.get .sectionId = sectionOf (c.get .courseId))
    (fun _ _ hnone => by cases hnone) (fun r _ found hfound => ?_) hx
  cases found with
  | none =>
    show (courseOf r).get .sectionId = sectionOf ((courseOf r).get .courseId)
    rw [get_courseOf_sectionId, get_courseOf_courseId]
  | some there => exact hfound there rfl

/-- The courses of a section are those whose ID names it. -/
theorem mem_coursesOfSection_coursesOf_iff :
    id ∈ coursesOfSection (coursesOf rows) ccn ↔
      (∃ r ∈ rows, r.get .courseId = id) ∧ Text.isBlankText ccn = false ∧ sectionOf id = ccn := by
  have hvalues : (∃ c ∈ (coursesOf rows).toList, c.get .courseId = id) ↔ ∃ r ∈ rows, r.get .courseId = id := by
    rw [← List.mem_map, ← Integrity.values, values_coursesOf, mem_distinct, List.mem_map]
  rw [mem_coursesOfSection_iff, ← hvalues]
  constructor
  · rintro ⟨c, hc, rfl, hblank, rfl⟩
    exact ⟨⟨c, hc, rfl⟩, hblank, (get_sectionId_of_mem_coursesOf hc).symm⟩
  · rintro ⟨⟨c, hc, rfl⟩, hblank, rfl⟩
    have hsection := get_sectionId_of_mem_coursesOf hc
    refine ⟨c, hc, rfl, ?_, hsection⟩
    rw [Row.isBlankAt, hsection]
    exact hblank

/-- Two courses are matched with the same enrollments. -/
def AttendedAlike (courses : Sheet .courses) (id id' : String) : Prop :=
  ∀ e : Enrollment, id ∈ coursesOfSection courses e.ccn ↔ id' ∈ coursesOfSection courses e.ccn

theorem attendedAlike_of_split?_eq (hid : ∃ r ∈ rows, r.get .courseId = id) (hid' : ∃ r ∈ rows, r.get .courseId = id')
    (hsplit : CourseId.split? id = CourseId.split? id') : AttendedAlike (coursesOf rows) id id' := by
  have hsection : sectionOf id = sectionOf id' := by rw [sectionOf, hsplit, sectionOf]
  intro e
  rw [mem_coursesOfSection_coursesOf_iff, mem_coursesOfSection_coursesOf_iff, hsection]
  exact ⟨fun h => ⟨hid', h.2⟩, fun h => ⟨hid, h.2⟩⟩

end Publication

namespace Splitting

variable {gap : Int} {rows : List (Row .sisImport)} {r r' : Row .sisImport} {w : Window} {id : String}

/-! ## Suffixed rows -/

/-- The row goes under its course ID with the stamp of its last day. The ID names the same term and section and fits the
grammar if it did, a second ID goes along exactly where it was the same, and the other cells stay. -/
structure IsSuffixed (r r' : Row .sisImport) : Prop where
  courseId : ∃ w, Window.of? r = some w ∧ r'.get .courseId = r.get .courseId ++ "_" ++ w.last.stamp
  courseId_ne : r'.get .courseId ≠ r.get .courseId
  split?_eq : CourseId.split? (r'.get .courseId) = CourseId.split? (r.get .courseId)
  isWellFormed : CourseId.isWellFormed (r.get .courseId) = true → CourseId.isWellFormed (r'.get .courseId) = true
  courseId2 : r.get .courseId2 = r.get .courseId → r'.get .courseId2 = r'.get .courseId
  courseId2_ne_iff : r'.get .courseId2 ≠ r.get .courseId2 ↔ r.get .courseId2 = r.get .courseId
  others : ∀ c, c ≠ .courseId → c ≠ .courseId2 → r'.get c = r.get c

theorem get_suffixed_courseId2 (hw : Window.of? r = some w) :
    (suffixed r).get .courseId2 =
      if r.get .courseId2 = r.get .courseId then (suffixed r).get .courseId else r.get .courseId2 := by
  rw [get_suffixed_courseId hw, suffixed, hw]
  dsimp only
  rw [Row.get_set_of_ne _ _ (by decide)]
  split
  · exact Row.get_set_self _ _ (by decide)
  · rfl

theorem isAsciiDigit_of_mem_stamp (hw : Window.of? r = some w) {c : Char} (hc : c ∈ w.last.stamp.toList) :
    Text.isAsciiDigit c = true := Date.isAsciiDigit_of_mem_stamp (year_last hw) hc

theorem split?_suffixed (hw : Window.of? r = some w) :
    CourseId.split? ((suffixed r).get .courseId) = CourseId.split? (r.get .courseId) := by
  have hdash : '-' ∉ w.last.stamp.toList := fun hmem => nomatch isAsciiDigit_of_mem_stamp hw hmem
  rw [get_suffixed_courseId hw, CourseId.split?_append_suffix hdash]

section Plain

variable (hplain : CourseId.hasSuffix (r.get .courseId) = false)
include hplain

theorem get_suffixed_courseId_ne (hw : Window.of? r = some w) : (suffixed r).get .courseId ≠ r.get .courseId := by
  intro heq
  have hsuffix := CourseId.hasSuffix_append (r.get .courseId) w.last.stamp
  rw [← get_suffixed_courseId hw, heq, hplain] at hsuffix
  cases hsuffix

theorem isWellFormed_suffixed (hw : Window.of? r = some w) (hform : CourseId.isWellFormed (r.get .courseId) = true) :
    CourseId.isWellFormed ((suffixed r).get .courseId) = true := by
  have hnonempty : w.last.stamp.toList ≠ [] :=
    List.ne_nil_of_length_pos (by rw [Date.length_stamp (year_last hw)]; decide)
  rw [get_suffixed_courseId hw]
  refine CourseId.isWellFormed_append_suffix hplain hnonempty (fun c hc => ?_) hform
  rw [CourseId.isSuffixChar, isAsciiDigit_of_mem_stamp hw hc, Bool.or_true]

theorem get_suffixed_courseId2_ne_iff (hw : Window.of? r = some w) :
    (suffixed r).get .courseId2 ≠ r.get .courseId2 ↔ r.get .courseId2 = r.get .courseId := by
  rw [get_suffixed_courseId2 hw]
  by_cases hsame : r.get .courseId2 = r.get .courseId
  · rw [if_pos hsame, hsame]
    exact iff_of_true (get_suffixed_courseId_ne hplain hw) rfl
  · rw [if_neg hsame]
    exact iff_of_false (fun hmoved => hmoved rfl) hsame

end Plain

theorem isSuffixed_suffixed (hr : r ∈ rows) (h : r.get .courseId ∈ splitIds gap rows) : IsSuffixed r (suffixed r) := by
  obtain ⟨w, hw⟩ := exists_window_of_mem_splitIds hr h
  have hplain := (mem_splitIds_iff.1 h).2
  exact {
    courseId := ⟨w, hw, get_suffixed_courseId hw⟩
    courseId_ne := get_suffixed_courseId_ne hplain hw
    split?_eq := split?_suffixed hw
    isWellFormed := isWellFormed_suffixed hplain hw
    courseId2 := fun hsame => (get_suffixed_courseId2 hw).trans (if_pos hsame)
    courseId2_ne_iff := get_suffixed_courseId2_ne_iff hplain hw
    others := fun _ hc hc' => get_suffixed_of_ne hc hc' }

/-- The rows that a split renames are those whose course ID it changes. -/
theorem renamedCount_eq (gap : Int) (rows : List (Row .sisImport)) :
    renamedCount gap rows =
      (rows.zip (split gap rows)).countP fun p => p.2.get .courseId ≠ p.1.get .courseId := by
  rw [split_eq_map, ← List.map_prod_left_eq_zip, List.countP_map, renamedCount]
  refine List.countP_congr fun r hr => ?_
  rw [decide_eq_true_iff, Function.comp_apply, decide_eq_true_iff]
  by_cases h : r.get .courseId ∈ splitIds gap rows
  · rw [renamed_of_mem h]
    exact iff_of_true h (isSuffixed_suffixed hr h).courseId_ne
  · rw [renamed_of_not_mem h]
    exact iff_of_false h fun hne => hne rfl

/-- A split leaves a row in its section. -/
theorem split?_renamed (hr : r ∈ rows) :
    CourseId.split? ((renamed gap rows r).get .courseId) = CourseId.split? (r.get .courseId) := by
  by_cases h : r.get .courseId ∈ splitIds gap rows
  · rw [renamed_of_mem h]
    exact (isSuffixed_suffixed hr h).split?_eq
  · rw [renamed_of_not_mem h]

/-- **A suffix keeps the section.** Every row whose course ID is split becomes a suffixed row, every other one stays,
and the rows that are renamed are counted. Whichever of their IDs before and after the split are published, rows of one
section belong to courses that are matched with the same enrollments. -/
theorem split_suffixes (gap : Int) (rows : List (Row .sisImport)) :
    List.Forall₂ (fun r r' => if r.get .courseId ∈ splitIds gap rows then IsSuffixed r r' else r' = r) rows
      (split gap rows) ∧
    (renamedCount gap rows =
      (rows.zip (split gap rows)).countP fun p => p.2.get .courseId ≠ p.1.get .courseId) ∧
    ∀ p ∈ rows.zip (split gap rows), ∀ q ∈ rows.zip (split gap rows),
      CourseId.split? (p.1.get .courseId) = CourseId.split? (q.1.get .courseId) →
      ∀ id ∈ [p.1.get .courseId, p.2.get .courseId], ∀ id' ∈ [q.1.get .courseId, q.2.get .courseId],
      ∀ published : List (Row .sisImport), (∃ r ∈ published, r.get .courseId = id) →
        (∃ r ∈ published, r.get .courseId = id') →
          Publication.AttendedAlike (Publication.coursesOf published) id id' := by
  refine ⟨List.forall₂_map_right_iff.2 (List.forall₂_same.2 fun r hr => ?_), renamedCount_eq gap rows, ?_⟩
  · split
    · exact isSuffixed_suffixed hr ‹_›
    · rfl
  · have hsection : ∀ p ∈ rows.zip (split gap rows), ∀ id ∈ [p.1.get .courseId, p.2.get .courseId],
        CourseId.split? id = CourseId.split? (p.1.get .courseId) := by
      rintro ⟨r, r'⟩ hp id hid
      obtain ⟨hr, rfl⟩ := mem_zip_split_iff.1 hp
      rcases List.mem_pair.1 hid with rfl | rfl
      · rfl
      · exact split?_renamed hr
    intro p hp q hq hsame id hid id' hid' published hpublished hpublished'
    refine Publication.attendedAlike_of_split?_eq hpublished hpublished' ?_
    rw [hsection p hp id hid, hsection q hq id' hid', hsame]

/-- Two periods of a section get suffixes, and a third course of it has one already: the first period and this course
are matched with the same enrollments. -/
theorem split_suffixes_parts :
    let row (id first last : String) : Row .sisImport :=
      .ofPairs _ [(.courseId, id), (.courseId2, id), (.ldapUid, "100"), (.startDate, first), (.endDate, last)]
    let period := row "2015-B-91111" "01-20-2015" "03-08-2015"
    let discussion := row "2015-B-91111_GSI" "01-20-2015" "05-08-2015"
    let rows := [period, row "2015-B-91111" "03-20-2015" "05-08-2015", discussion]
    (period, suffixed period) ∈ rows.zip (split 1 rows) ∧ (discussion, discussion) ∈ rows.zip (split 1 rows) ∧
      CourseId.split? (period.get .courseId) = CourseId.split? (discussion.get .courseId) ∧
      (∃ r ∈ split 1 rows, r.get .courseId = "2015-B-91111_20150308") ∧
      (∃ r ∈ split 1 rows, r.get .courseId = "2015-B-91111_GSI") ∧
      Publication.AttendedAlike (Publication.coursesOf (split 1 rows)) "2015-B-91111_20150308" "2015-B-91111_GSI" := by
  intro row period discussion rows
  have hperiod : (period, suffixed period) ∈ rows.zip (split 1 rows) := by decide +kernel
  have hdiscussion : (discussion, discussion) ∈ rows.zip (split 1 rows) := by decide +kernel
  have hsection : CourseId.split? (period.get .courseId) = CourseId.split? (discussion.get .courseId) := by
    decide +kernel
  have hnew : ∃ r ∈ split 1 rows, r.get .courseId = "2015-B-91111_20150308" := by decide +kernel
  have hold : ∃ r ∈ split 1 rows, r.get .courseId = "2015-B-91111_GSI" := by decide +kernel
  obtain ⟨-, -, hpublished⟩ := split_suffixes 1 rows
  exact ⟨hperiod, hdiscussion, hsection, hnew, hold,
    hpublished _ hperiod _ hdiscussion hsection _ (by decide +kernel) _ (by decide +kernel) _ hnew hold⟩

/-! ## Splitting again -/

/-- Under an ID without a suffix a split leaves the rows as they were, or none if the ID is split. -/
theorem mem_group_split_iff (hplain : CourseId.hasSuffix id = false) :
    r ∈ group (split gap rows) id ↔ r ∈ group rows id ∧ id ∉ splitIds gap rows := by
  rw [mem_group_iff, mem_split_iff, mem_group_iff]
  constructor
  · rintro ⟨⟨r, hr, rfl⟩, hid⟩
    have hstays : r.get .courseId ∉ splitIds gap rows := by
      intro h
      obtain ⟨w, hw⟩ := exists_window_of_mem_splitIds hr h
      rw [renamed_of_mem h, get_suffixed_courseId hw] at hid
      rw [← hid, CourseId.hasSuffix_append] at hplain
      cases hplain
    rw [renamed_of_not_mem hstays] at hid ⊢
    exact ⟨⟨hr, hid⟩, hid ▸ hstays⟩
  · rintro ⟨⟨hr, rfl⟩, hstays⟩
    exact ⟨⟨r, hr, renamed_of_not_mem hstays⟩, rfl⟩

theorem splitIds_split (gap : Int) (rows : List (Row .sisImport)) : splitIds gap (split gap rows) = [] := by
  rw [List.eq_nil_iff_forall_not_mem]
  intro id hid
  obtain ⟨hsplits, hplain⟩ := mem_splitIds_iff.1 hid
  -- some row is under the ID, so the ID was not split, and its rows are as they were
  obtain ⟨r, hr, -⟩ := hsplits.differing
  have hstays := ((mem_group_split_iff hplain).1 hr).2
  refine hstays (mem_splitIds_iff.2 ⟨hsplits.congr fun r => ?_, hplain⟩)
  rw [mem_group_split_iff hplain]
  exact and_iff_left hstays

/-- **Splitting again changes nothing.** For every gap, a second split of the rows leaves every row as it is and renames
none. -/
theorem split_again (gap : Int) (rows : List (Row .sisImport)) :
    split gap (split gap rows) = split gap rows ∧ renamedCount gap (split gap rows) = 0 := by
  have hnone : ∀ r : Row .sisImport, r.get .courseId ∉ splitIds gap (split gap rows) := by
    intro r
    rw [splitIds_split]
    exact List.not_mem_nil
  constructor
  · rw [split_eq_map gap (split gap rows)]
    exact (List.map_congr_left fun r _ => renamed_of_not_mem (hnone r)).trans (List.map_id _)
  · rw [renamedCount, List.countP_eq_zero]
    intro r _
    rw [decide_eq_true_iff]
    exact hnone r

end Splitting

end Registrar
