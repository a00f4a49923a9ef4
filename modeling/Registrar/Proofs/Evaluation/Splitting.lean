import Mathlib.Data.List.Basic
import Registrar.Evaluation.Splitting
import Registrar.Proofs.Batches
import Registrar.Proofs.Calendar.Date
import Registrar.Proofs.CourseId
import Registrar.Proofs.Evaluation.Window
import Registrar.Proofs.Sheet.Row

/-!
# What a split makes of courses

A split is a map over the rows (`split_eq_map`): a row whose course ID is split goes under that ID with the stamp of its
last day (`get_suffixed_courseId`), the others stay. An ID is split where its rows are (`Splits`) and it carries no
suffix (`mem_splitIds_iff`).

Two rows end up under one course ID for three reasons (`renamed_courseId_eq_iff`): they were under one, and if it is
split they end on one day; or the new ID of one is the ID of the other, which carried that suffix before. The second and
third are the only ways in which different courses come together. So a split separates the windows of the courses that
it splits, and nothing else, exactly where windows of a split course that differ end on different days and no new ID is
taken (`separates_iff`). Neither is checked (`split_joins`).
-/

namespace Registrar.Splitting

open GroupDecision

variable {gap : Int} {rows : List (Row .sisImport)} {r r' : Row .sisImport} {w w' : Window} {id : String}

/-! ## The IDs that are split -/

theorem mem_group_iff : r ∈ group rows id ↔ r ∈ rows ∧ r.get .courseId = id := by
  rw [group, List.mem_filter, decide_eq_true_iff]

/-- An ID is split where its rows are and it carries no suffix. -/
theorem mem_splitIds_iff :
    id ∈ splitIds gap rows ↔ Splits gap (group rows id) ∧ CourseId.hasSuffix id = false := by
  rw [splitIds, List.mem_filter, isSplit, Bool.and_eq_true, decide_eq_true_iff, of_eq_split_iff, Bool.not_eq_true']
  refine and_iff_right_of_imp fun h => ?_
  -- rows with different windows are different rows, so the ID is shared
  obtain ⟨r, hr, r', hr', hne⟩ := h.1.differing
  obtain ⟨hrows, hid⟩ := mem_group_iff.1 hr
  rw [sharedIds, List.mem_filter, mem_distinct]
  refine ⟨List.mem_map.2 ⟨r, hrows, hid⟩, decide_eq_true ?_⟩
  exact one_lt_length_of_ne hr hr' fun heq => hne (congrArg Window.of? heq)

theorem exists_window_of_mem_splitIds (hr : r ∈ rows) (h : r.get .courseId ∈ splitIds gap rows) :
    ∃ w, Window.of? r = some w :=
  Option.isSome_iff_exists.1 ((mem_splitIds_iff.1 h).1.readable r (mem_group_iff.2 ⟨hr, rfl⟩))

/-! ## The rows after a split -/

theorem get_suffixed_courseId (hw : Window.of? r = some w) :
    (suffixed r).get .courseId = r.get .courseId ++ "_" ++ w.last.stamp := by
  rw [suffixed, hw]
  exact Row.get_set_self _ _ (by decide)

theorem get_suffixed_of_ne {c : Column} (hc : c ≠ .courseId) (hc' : c ≠ .courseId2) :
    (suffixed r).get c = r.get c := by
  unfold suffixed
  split
  · rfl
  · dsimp only
    rw [Row.get_set_of_ne _ _ hc]
    split
    · exact Row.get_set_of_ne _ _ hc'
    · rfl

/-- What a split makes of one row. -/
def renamed (gap : Int) (rows : List (Row .sisImport)) (r : Row .sisImport) : Row .sisImport :=
  if r.get .courseId ∈ splitIds gap rows then suffixed r else r

theorem split_eq_map (gap : Int) (rows : List (Row .sisImport)) : split gap rows = rows.map (renamed gap rows) := rfl

theorem mem_split_iff : r' ∈ split gap rows ↔ ∃ r ∈ rows, renamed gap rows r = r' := List.mem_map

/-- Each row of a list stands beside what a map makes of it. -/
theorem mem_zip_map_iff {f : Row .sisImport → Row .sisImport} :
    (r, r') ∈ rows.zip (rows.map f) ↔ r ∈ rows ∧ r' = f r := by
  rw [← List.map_prod_left_eq_zip, List.mem_map]
  constructor
  · rintro ⟨r, hr, heq⟩
    cases heq
    exact ⟨hr, rfl⟩
  · rintro ⟨hr, rfl⟩
    exact ⟨r, hr, rfl⟩

theorem mem_zip_split_iff : (r, r') ∈ rows.zip (split gap rows) ↔ r ∈ rows ∧ r' = renamed gap rows r := mem_zip_map_iff

theorem renamed_of_mem (h : r.get .courseId ∈ splitIds gap rows) : renamed gap rows r = suffixed r := if_pos h

theorem renamed_of_not_mem (h : r.get .courseId ∉ splitIds gap rows) : renamed gap rows r = r := if_neg h

theorem get_renamed_of_ne {c : Column} (hc : c ≠ .courseId) (hc' : c ≠ .courseId2) :
    (renamed gap rows r).get c = r.get c := by
  unfold renamed
  split
  · exact get_suffixed_of_ne hc hc'
  · rfl

/-! ## The courses after a split -/

/-- The last day of the window of a row. -/
def lastDay? (r : Row .sisImport) : Option Date := (Window.of? r).map Window.last

/-- The new ID of one row is the ID of another. -/
def MovesOnto (gap : Int) (rows : List (Row .sisImport)) (r r' : Row .sisImport) : Prop :=
  r.get .courseId ∈ splitIds gap rows ∧ (suffixed r).get .courseId = r'.get .courseId

theorem year_last (hw : Window.of? r = some w) : 0 ≤ w.last.year ∧ w.last.year ≤ 9999 :=
  Date.year_of_parse? (Window.of?_eq_some_iff.1 hw).2

/-- Rows are moved only onto IDs that carry a suffix. -/
theorem hasSuffix_of_movesOnto (hr : r ∈ rows) (h : MovesOnto gap rows r r') :
    CourseId.hasSuffix (r'.get .courseId) = true := by
  obtain ⟨hmem, heq⟩ := h
  obtain ⟨w, hw⟩ := exists_window_of_mem_splitIds hr hmem
  rw [← heq, get_suffixed_courseId hw]
  exact CourseId.hasSuffix_append _ _

theorem not_mem_splitIds_of_movesOnto (hr : r ∈ rows) (h : MovesOnto gap rows r r') :
    r'.get .courseId ∉ splitIds gap rows := by
  intro hmem
  have hplain := (mem_splitIds_iff.1 hmem).2
  rw [hasSuffix_of_movesOnto hr h] at hplain
  cases hplain

/-- Rows of split courses come under one ID where they were under one and end on one day. -/
theorem suffixed_courseId_eq_iff (hr : r ∈ rows) (hr' : r' ∈ rows) (h : r.get .courseId ∈ splitIds gap rows)
    (h' : r'.get .courseId ∈ splitIds gap rows) :
    (suffixed r).get .courseId = (suffixed r').get .courseId ↔
      r.get .courseId = r'.get .courseId ∧ lastDay? r = lastDay? r' := by
  obtain ⟨w, hw⟩ := exists_window_of_mem_splitIds hr h
  obtain ⟨w', hw'⟩ := exists_window_of_mem_splitIds hr' h'
  rw [get_suffixed_courseId hw, get_suffixed_courseId hw', lastDay?, lastDay?, hw, hw', Option.map_some,
    Option.map_some, Option.some_inj]
  constructor
  · intro heq
    obtain ⟨hid, hstamp⟩ := CourseId.append_suffix_inj (mem_splitIds_iff.1 h).2 (mem_splitIds_iff.1 h').2 heq
    exact ⟨hid, Date.stamp_injective (year_last hw) (year_last hw') hstamp⟩
  · rintro ⟨hid, hlast⟩
    rw [hid, hlast]

/-- Why two rows end up under one course ID. -/
theorem renamed_courseId_eq_iff (hr : r ∈ rows) (hr' : r' ∈ rows) :
    (renamed gap rows r).get .courseId = (renamed gap rows r').get .courseId ↔
      (r.get .courseId = r'.get .courseId ∧ (r.get .courseId ∈ splitIds gap rows → lastDay? r = lastDay? r')) ∨
        MovesOnto gap rows r r' ∨ MovesOnto gap rows r' r := by
  by_cases h : r.get .courseId ∈ splitIds gap rows <;> by_cases h' : r'.get .courseId ∈ splitIds gap rows
  · rw [renamed_of_mem h, renamed_of_mem h', suffixed_courseId_eq_iff hr hr' h h']
    have hnone : ¬ (MovesOnto gap rows r r' ∨ MovesOnto gap rows r' r) := by
      rintro (honto | honto)
      · exact not_mem_splitIds_of_movesOnto hr honto h'
      · exact not_mem_splitIds_of_movesOnto hr' honto h
    rw [or_iff_left hnone, forall_prop_of_true h]
  · rw [renamed_of_mem h, renamed_of_not_mem h']
    have hapart : r.get .courseId ≠ r'.get .courseId := fun heq => h' (heq ▸ h)
    simp [MovesOnto, h, h', hapart]
  · rw [renamed_of_not_mem h, renamed_of_mem h']
    have hapart : r.get .courseId ≠ r'.get .courseId := fun heq => h (heq ▸ h')
    simp [MovesOnto, h, h', hapart, eq_comm]
  · rw [renamed_of_not_mem h, renamed_of_not_mem h']
    simp [MovesOnto, h, h']

/-- The split makes of the rows the courses that it is to make: rows are of one course where they were and the course
is not split or they have one window. -/
def Separates (gap : Int) (rows : List (Row .sisImport)) : Prop :=
  ∀ p ∈ rows.zip (split gap rows), ∀ q ∈ rows.zip (split gap rows),
    p.2.get .courseId = q.2.get .courseId ↔
      p.1.get .courseId = q.1.get .courseId ∧
        (p.1.get .courseId ∉ splitIds gap rows ∨ Window.of? p.1 = Window.of? q.1)

instance (gap : Int) (rows : List (Row .sisImport)) : Decidable (Separates gap rows) :=
  inferInstanceAs (Decidable (∀ p ∈ rows.zip (split gap rows), ∀ q ∈ rows.zip (split gap rows), _ ↔ _ ∧ (_ ∨ _)))

/-- Windows of a split course that differ end on different days. -/
def EndApart (gap : Int) (rows : List (Row .sisImport)) : Prop :=
  ∀ r ∈ rows, ∀ r' ∈ rows, r.get .courseId = r'.get .courseId → r.get .courseId ∈ splitIds gap rows →
    lastDay? r = lastDay? r' → Window.of? r = Window.of? r'

/-- **A split makes the intended courses exactly where last days tell the windows of a split course apart and no new ID
is the ID of another row.** -/
theorem separates_iff (gap : Int) (rows : List (Row .sisImport)) :
    Separates gap rows ↔ EndApart gap rows ∧ ∀ r ∈ rows, ∀ r' ∈ rows, ¬ MovesOnto gap rows r r' := by
  constructor
  · intro hsep
    have hpair : ∀ r ∈ rows, ∀ r' ∈ rows,
        (renamed gap rows r).get .courseId = (renamed gap rows r').get .courseId →
          r.get .courseId = r'.get .courseId ∧
            (r.get .courseId ∉ splitIds gap rows ∨ Window.of? r = Window.of? r') := fun r hr r' hr' =>
      (hsep (r, _) (mem_zip_split_iff.2 ⟨hr, rfl⟩) (r', _) (mem_zip_split_iff.2 ⟨hr', rfl⟩)).1
    constructor
    · intro r hr r' hr' hid hsplit hlast
      obtain ⟨-, hwindow⟩ := hpair r hr r' hr' ((renamed_courseId_eq_iff hr hr').2 (.inl ⟨hid, fun _ => hlast⟩))
      exact hwindow.resolve_left fun h => h hsplit
    · intro r hr r' hr' honto
      obtain ⟨hid, -⟩ := hpair r hr r' hr' ((renamed_courseId_eq_iff hr hr').2 (.inr (.inl honto)))
      exact not_mem_splitIds_of_movesOnto hr honto (hid ▸ honto.1)
  · rintro ⟨hends, hnone⟩ ⟨r, s⟩ hp ⟨r', s'⟩ hq
    obtain ⟨hr, rfl⟩ := mem_zip_split_iff.1 hp
    obtain ⟨hr', rfl⟩ := mem_zip_split_iff.1 hq
    have hapart : ¬ (MovesOnto gap rows r r' ∨ MovesOnto gap rows r' r) := by
      rintro (honto | honto)
      · exact hnone r hr r' hr' honto
      · exact hnone r' hr' r hr honto
    rw [renamed_courseId_eq_iff hr hr', or_iff_left hapart]
    refine and_congr_right fun hid => ⟨fun hlast => ?_, fun hwindow hsplit => ?_⟩
    · by_cases hsplit : r.get .courseId ∈ splitIds gap rows
      · exact .inr (hends r hr r' hr' hid hsplit (hlast hsplit))
      · exact .inl hsplit
    · exact congrArg (Option.map Window.last) (hwindow.resolve_left fun h => h hsplit)

/-- Neither is checked. Two instructors whose windows end on one day stay in one course, and a course is moved onto an
ID that carried the suffix before. -/
theorem split_joins :
    let row (id uid first last : String) : Row .sisImport :=
      .ofPairs _ [(.courseId, id), (.ldapUid, uid), (.startDate, first), (.endDate, last)]
    ¬ Separates 1 [row "A" "100" "01-20-2015" "05-08-2015", row "A" "200" "02-20-2015" "05-08-2015"] ∧
      ¬ Separates 1 [row "A" "100" "01-20-2015" "03-08-2015", row "A" "100" "03-20-2015" "05-08-2015",
        row "A_20150308" "200" "01-20-2015" "05-08-2015"] := by
  decide +kernel

end Registrar.Splitting
