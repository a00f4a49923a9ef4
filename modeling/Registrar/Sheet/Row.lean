import Registrar.Sheet.Kind
import Registrar.Text.Blank

/-!
# Rows

A `Row k` has a text for every column of its kind. Reading after writing gives what was written and leaves the other
columns alone (`get_set`), two rows that agree on the columns of their kind are equal (`ext_columns`), and an overlay
takes exactly the columns that both kinds declare (`get_overlay`).
-/

namespace Registrar

/-- One text for each column of a kind. -/
structure Row (k : Kind) where
  cells : Vector String k.columns.length
  deriving DecidableEq

namespace Row

variable {k d : Kind}

/-- Every column blank. -/
def blank (k : Kind) : Row k := ⟨Vector.replicate _ ""⟩

instance : Inhabited (Row k) := ⟨blank k⟩

/-- The text under a column that the kind declares. -/
def get? (r : Row k) (c : Column) : Option String := (k.index? c).map r.cells.get

/-- The text under a column, empty when the kind does not declare it. -/
def get (r : Row k) (c : Column) : String := (r.get? c).getD ""

/-- Writes a text under a column that the kind declares. -/
def set (r : Row k) (c : Column) (v : String) : Row k :=
  match k.index? c with
  | some i => ⟨r.cells.setIfInBounds i v⟩
  | none => r

/-- The row with these texts, blank elsewhere. -/
def ofPairs (k : Kind) (pairs : List (Column × String)) : Row k := pairs.foldl (fun r (c, v) => r.set c v) (blank k)

/-- Nothing but blanks under a column. -/
def isBlankAt (r : Row k) (c : Column) : Bool := Text.isBlankText (r.get c)

/-- The row with the columns of `source` laid over it, blank or not, where both kinds declare them. -/
def overlay (r : Row k) (source : Row d) : Row k :=
  ⟨Vector.ofFn fun i => (source.get? (k.columns.get i)).getD (r.cells.get i)⟩

/-- The row of another kind that shares the columns of this one. -/
def project (r : Row k) (d : Kind) : Row d := (blank d).overlay r

/-- The texts of the exported columns. -/
def exportedCells (r : Row k) : List String := k.exported.map r.get

/-- The row that takes the columns it has blank from another one. -/
def fillFrom (r source : Row k) : Row k :=
  ⟨Vector.ofFn fun i =>
    if Text.isBlankText (r.cells.get i) && !Text.isBlankText (source.cells.get i) then source.cells.get i
    else r.cells.get i⟩

/-! ## Laws -/

theorem cells_get {n : Nat} (cells : Vector String n) (i : Fin n) : cells.get i = cells[i.val] := rfl

theorem get?_eq_none_iff {r : Row k} {c : Column} : r.get? c = none ↔ c ∉ k.columns := by
  simp [get?, Kind.index?_eq_none_iff]

theorem get?_columns (r : Row k) (i : Fin k.columns.length) : r.get? (k.columns.get i) = some (r.cells.get i) := by
  rw [get?, Kind.index?_columns]
  rfl

theorem get_columns (r : Row k) (i : Fin k.columns.length) : r.get (k.columns.get i) = r.cells.get i := by
  rw [get, get?_columns]
  rfl

theorem get?_of_mem {r : Row k} {c : Column} (h : c ∈ k.columns) : r.get? c = some (r.get c) := by
  cases hg : r.get? c with
  | none => exact absurd h (get?_eq_none_iff.1 hg)
  | some v => simp [get, hg]

theorem get_of_not_mem {r : Row k} {c : Column} (h : c ∉ k.columns) : r.get c = "" := by
  simp [get, get?_eq_none_iff.2 h]

theorem ext_columns {r s : Row k} (h : ∀ c ∈ k.columns, r.get c = s.get c) : r = s := by
  obtain ⟨rc⟩ := r
  obtain ⟨sc⟩ := s
  congr 1
  refine Vector.ext fun i hi => ?_
  have := h (k.columns.get ⟨i, hi⟩) (List.get_mem _ _)
  rwa [get_columns, get_columns] at this

theorem get_set (r : Row k) (c c' : Column) (v : String) :
    (r.set c v).get c' = if c' = c ∧ c ∈ k.columns then v else r.get c' := by
  unfold set
  split
  · rename_i i hi
    have hc : k.columns.get i = c := Kind.index?_eq_some_iff.1 hi
    have hm : c ∈ k.columns := hc ▸ List.get_mem _ _
    by_cases h : c' = c
    · subst h
      simp [get, get?, hi, hm, cells_get]
    · simp only [h, false_and, if_false, get, get?]
      cases hj : k.index? c' with
      | none => rfl
      | some j =>
        have hne : i.val ≠ j.val := fun e => h (by
          rw [← Kind.index?_eq_some_iff.1 hj, ← hc]
          exact congrArg k.columns.get (Fin.ext e.symm))
        simp [cells_get, hne]
  · rename_i hi
    have hm : c ∉ k.columns := Kind.index?_eq_none_iff.1 hi
    simp [hm]

theorem get_blank (k : Kind) (c : Column) : (blank k).get c = "" := by
  simp only [get, get?]
  cases k.index? c with
  | none => rfl
  | some i => exact Vector.getElem_replicate i.isLt

theorem get_overlay (r : Row k) (source : Row d) (c : Column) :
    (r.overlay source).get c = if c ∈ k.columns ∧ c ∈ d.columns then source.get c else r.get c := by
  by_cases hk : c ∈ k.columns
  · cases hi : k.index? c with
    | none => exact absurd hk (Kind.index?_eq_none_iff.1 hi)
    | some i =>
      have hc := Kind.index?_eq_some_iff.1 hi
      subst hc
      rw [get_columns, get_columns]
      by_cases hd : k.columns.get i ∈ d.columns
      · have hg := get?_of_mem (r := source) hd
        simp only [overlay, cells_get, Vector.getElem_ofFn, Fin.eta, hg, Option.getD_some]
        rw [if_pos ⟨hk, hd⟩]
      · have hg := (get?_eq_none_iff (r := source)).2 hd
        simp only [overlay, cells_get, Vector.getElem_ofFn, Fin.eta, hg, Option.getD_none]
        rw [if_neg fun h => hd h.2]
  · rw [get_of_not_mem hk, get_of_not_mem hk]
    simp [hk]

end Row

end Registrar
