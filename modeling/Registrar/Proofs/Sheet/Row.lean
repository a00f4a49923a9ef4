import Registrar.Sheet.Row

/-!
# Reading cells of changed rows

What stands under a column after a text was written under the same column (`get_set_self`) or under another one
(`get_set_of_ne`), and what a projected row (`get_project`) and a completed one (`get_fillFrom`) take over. Writing what
stands there changes nothing (`set_get`), nor does completing a second time (`fillFrom_fillFrom`). A completed row says
what it said before, or else what the other one says (`said?_fillFrom`).
-/

namespace Registrar.Row

variable {k d : Kind} {c c' : Column}

theorem get_set_self (r : Row k) (v : String) (h : c ∈ k.columns) : (r.set c v).get c = v := by
  rw [get_set, if_pos ⟨rfl, h⟩]

theorem get_set_of_ne (r : Row k) (v : String) (h : c' ≠ c) : (r.set c v).get c' = r.get c' := by
  rw [get_set, if_neg fun hc => h hc.1]

theorem set_get (r : Row k) (c : Column) : r.set c (r.get c) = r := by
  apply ext_columns
  intro c' _
  rw [get_set]
  split
  · rename_i h
    rw [h.1]
  · rfl

theorem get_project (r : Row k) (hd : c ∈ d.columns) (hk : c ∈ k.columns) : (r.project d).get c = r.get c := by
  rw [project, get_overlay, if_pos ⟨hd, hk⟩]

/-- A completed row takes from the other one what it has blank and the other one has not. -/
theorem get_fillFrom (r source : Row k) (c : Column) :
    (r.fillFrom source).get c = if r.isBlankAt c && !source.isBlankAt c then source.get c else r.get c := by
  by_cases hc : c ∈ k.columns
  · obtain ⟨i, rfl⟩ := List.mem_iff_get.1 hc
    simp only [isBlankAt, get_columns, fillFrom, cells_get, Vector.getElem_ofFn]
  · simp only [get_of_not_mem hc, ite_self]

theorem get_fillFrom_of_not_blank {r : Row k} (source : Row k) (h : r.isBlankAt c = false) :
    (r.fillFrom source).get c = r.get c := by
  rw [get_fillFrom, h, Bool.false_and, if_neg Bool.false_ne_true]

theorem fillFrom_self (r : Row k) : r.fillFrom r = r := by
  apply ext_columns
  intro c _
  rw [get_fillFrom, ite_self]

/-- Completing a row from what it has been completed to gives the same row again. -/
theorem fillFrom_fillFrom (r source : Row k) : r.fillFrom (r.fillFrom source) = r.fillFrom source := by
  apply ext_columns
  intro c _
  rw [get_fillFrom]
  split
  · rfl
  · rename_i hkept
    -- had the source completed this column, the completed row would complete it as well
    rw [get_fillFrom, if_neg]
    intro htaken
    obtain ⟨hblank, hsource⟩ := (Bool.and_eq_true _ _).mp htaken
    apply hkept
    rw [hblank, Bool.true_and, isBlankAt, get_fillFrom, if_pos htaken]
    exact hsource

/-! ## What a row says -/

/-- The text under a column, where it is not blank. -/
def said? (r : Row k) (c : Column) : Option String := if r.isBlankAt c then none else some (r.get c)

theorem said?_eq_some_iff {r : Row k} {v : String} : r.said? c = some v ↔ r.isBlankAt c = false ∧ r.get c = v := by
  rw [said?]
  cases r.isBlankAt c <;> simp

theorem said?_congr {r : Row k} {source : Row d} (h : r.get c = source.get c) : r.said? c = source.said? c := by
  rw [said?, said?, isBlankAt, isBlankAt, h]

theorem said?_fillFrom (r source : Row k) (c : Column) :
    (r.fillFrom source).said? c = (r.said? c).or (source.said? c) := by
  by_cases hr : r.isBlankAt c = true
  · have hsource : (r.fillFrom source).get c = if source.isBlankAt c then r.get c else source.get c := by
      rw [get_fillFrom, hr, Bool.true_and]
      cases source.isBlankAt c <;> rfl
    rw [said?, said?, said?, isBlankAt, hsource, if_pos hr, Option.none_or]
    split
    · exact if_pos hr
    · rename_i hsaid
      exact if_neg hsaid
  · have hkept : (r.fillFrom source).get c = r.get c := get_fillFrom_of_not_blank source (Bool.eq_false_iff.2 hr)
    rw [said?_congr hkept, said?, if_neg hr, Option.some_or]

/-- Where a record completes another one, if there is any, what the first does not say the second may. -/
theorem bind_said?_merge (found record : Option (Row k)) (c : Column) :
    (found.merge fillFrom record).bind (·.said? c) = (found.bind (·.said? c)).or (record.bind (·.said? c)) := by
  cases found with
  | none => cases record <;> rfl
  | some r =>
    cases record with
    | none => exact (Option.or_none).symm
    | some source => exact said?_fillFrom r source c

end Registrar.Row
