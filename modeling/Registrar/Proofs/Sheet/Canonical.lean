import Registrar.Proofs.Calendar.Date
import Registrar.Proofs.Text.Lead
import Registrar.Sheet.Text

/-!
# Canonical cells

What is left of a cell after it was written and read is its canonical form (`canon`): without the apostrophe in front of
a numeral, and for a date in its normal form. An apostrophe put in front of a numeral does not show
(`unprotectNumeral_protectNumeral`), and a canonical cell is its own canonical form (`canon_canon`). The canonical form
of a row is taken cell by cell; its transient cells are blank (`get_canonical`).
-/

namespace Registrar

/-! ## Apostrophes -/

/-- A text that starts with no apostrophe has none to lose. -/
theorem unprotectNumeral_of_stripLead? {v : String} (h : Text.stripLead? "'" v = none) : unprotectNumeral v = v := by
  rw [unprotectNumeral, h]

theorem unprotectNumeral_of_isNumeral {v : String} (h : Text.isNumeral v = true) : unprotectNumeral v = v :=
  unprotectNumeral_of_stripLead? (Text.stripLead?_of_isNumeral (by decide) h)

theorem unprotectNumeral_unprotectNumeral (v : String) :
    unprotectNumeral (unprotectNumeral v) = unprotectNumeral v := by
  cases hv : Text.stripLead? "'" v with
  | none => rw [unprotectNumeral_of_stripLead? hv, unprotectNumeral_of_stripLead? hv]
  | some rest =>
    by_cases hrest : Text.isNumeral rest = true
    · have hout : unprotectNumeral v = rest := by simp [unprotectNumeral, hv, hrest]
      rw [hout, unprotectNumeral_of_isNumeral hrest]
    · have hout : unprotectNumeral v = v := by simp [unprotectNumeral, hv, hrest]
      rw [hout, hout]

theorem unprotectNumeral_protectNumeral (v : String) : unprotectNumeral (protectNumeral v) = unprotectNumeral v := by
  unfold protectNumeral
  split
  · rename_i hv
    rw [unprotectNumeral_of_isNumeral hv, unprotectNumeral, Text.stripLead?_append]
    exact if_pos hv
  · rfl

/-! ## Cells -/

/-- The cell that is read where `v` was written under a column: without the apostrophe in front of a numeral, and a date
in its normal form. -/
def canon (c : Column) (v : String) : String :=
  let v := unprotectNumeral v
  if c ∈ Column.dates ∧ ¬ Text.isBlankText v then (Date.normalize? v).getD v else v

/-- A blank text names no date, so it need not be told apart. -/
theorem canon_of_mem {c : Column} (hc : c ∈ Column.dates) (v : String) :
    canon c v = (Date.normalize? (unprotectNumeral v)).getD (unprotectNumeral v) := by
  unfold canon
  dsimp only
  split
  · rfl
  · rename_i h
    have hblank : Text.isBlankText (unprotectNumeral v) = true := by
      rw [not_and, Classical.not_not] at h
      exact h hc
    rw [Date.normalize?, Date.parse?_of_isBlankText hblank]
    rfl

theorem canon_of_not_mem {c : Column} (hc : c ∉ Column.dates) (v : String) : canon c v = unprotectNumeral v :=
  if_neg fun h => hc h.1

theorem canon_empty (c : Column) : canon c "" = "" := by
  by_cases hc : c ∈ Column.dates
  · rw [canon_of_mem hc]
    decide
  · rw [canon_of_not_mem hc]
    decide

theorem canon_protectNumeral (c : Column) (v : String) : canon c (protectNumeral v) = canon c v := by
  unfold canon
  rw [unprotectNumeral_protectNumeral]

/-- A date in normal form starts with a digit. -/
theorem unprotectNumeral_of_normalize? {v t : String} (h : Date.normalize? v = some t) : unprotectNumeral t = t := by
  obtain ⟨c, cs, hcs, hc⟩ := Date.head?_of_normalize? h
  apply unprotectNumeral_of_stripLead?
  cases ht : Text.stripLead? "'" t with
  | none => rfl
  | some rest =>
    rw [Text.stripLead?_eq_some_iff.1 ht, String.toList_append] at hcs
    injection hcs with hhead
    subst hhead
    cases hc

theorem canon_canon (c : Column) (v : String) : canon c (canon c v) = canon c v := by
  by_cases hc : c ∈ Column.dates
  · rw [canon_of_mem hc v]
    cases hv : Date.normalize? (unprotectNumeral v) with
    | none =>
      rw [Option.getD_none, canon_of_mem hc, unprotectNumeral_unprotectNumeral, hv]
      rfl
    | some t =>
      rw [Option.getD_some, canon_of_mem hc, unprotectNumeral_of_normalize? hv, Date.normalize?_normalize? hv]
      rfl
  · rw [canon_of_not_mem hc, canon_of_not_mem hc, unprotectNumeral_unprotectNumeral]

/-! ## Rows -/

namespace Row

variable {k : Kind}

/-- The row with its exported cells in canonical form and nothing else. -/
def canonical (r : Row k) : Row k :=
  ⟨Vector.ofFn fun i => if k.columns.get i ∈ k.exported then canon (k.columns.get i) (r.cells.get i) else ""⟩

theorem mem_columns_of_mem_exported {c : Column} (h : c ∈ k.exported) : c ∈ k.columns := List.mem_append_left _ h

theorem get_canonical (r : Row k) (c : Column) :
    r.canonical.get c = if c ∈ k.exported then canon c (r.get c) else "" := by
  by_cases hc : c ∈ k.columns
  · obtain ⟨i, rfl⟩ := List.mem_iff_get.1 hc
    rw [get_columns, get_columns, canonical]
    exact Vector.getElem_ofFn i.isLt
  · rw [get_of_not_mem hc, if_neg fun h => hc (mem_columns_of_mem_exported h)]

end Row

end Registrar
