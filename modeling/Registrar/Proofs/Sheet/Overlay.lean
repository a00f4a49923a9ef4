import Registrar.Proofs.Sheet.Row

/-!
# Overlays by header

A kind finds a column by its header, and no other column of the kind has this header (`withHeader?_eq_some_iff`). Laying
a row of another kind over a row can be done column by column: the text of each column of the source is written under
the column with the same header, if there is one (`copy`). One such step changes this column and no other
(`get_copy`), so after all of them the shared columns hold the texts of the source and the others what they held
before (`get_foldl_copy`): the steps make the overlay (`copyAll_eq_overlay`). What an overlay does is said by headers
alone, and doing it again, or with what the row itself says, changes nothing (`overlay_by_header`).
-/

namespace Registrar

variable {k d : Kind} {header : String} {c : Column}

/-! ## Headers -/

/-- The first column of a kind with a header. -/
def Kind.withHeader? (k : Kind) (header : String) : Option Column := k.columns.find? fun c => c.header = header

theorem Kind.withHeader?_eq_some_iff : k.withHeader? header = some c ↔ c ∈ k.columns ∧ c.header = header := by
  have hfound : ∀ {c}, k.withHeader? header = some c → c ∈ k.columns ∧ c.header = header := by
    intro c h
    rw [withHeader?] at h
    have hheader := List.find?_some h
    exact ⟨List.mem_of_find?_eq_some h, of_decide_eq_true hheader⟩
  refine ⟨hfound, fun ⟨hc, hheader⟩ => ?_⟩
  cases h : k.withHeader? header with
  | none => exact absurd (decide_eq_true hheader) (List.find?_eq_none.1 h c hc)
  | some c' => rw [Column.header_injective ((hfound h).2.trans hheader.symm)]

theorem Kind.withHeader?_of_mem (h : c ∈ k.columns) : k.withHeader? c.header = some c :=
  withHeader?_eq_some_iff.2 ⟨h, rfl⟩

theorem Kind.withHeader?_of_not_mem (h : c ∉ k.columns) : k.withHeader? c.header = none := by
  cases hfound : k.withHeader? c.header with
  | none => rfl
  | some c' =>
    obtain ⟨hmem, hheader⟩ := withHeader?_eq_some_iff.1 hfound
    exact absurd (Column.header_injective hheader ▸ hmem) h

namespace Row

/-- The text under a header, where the kind has a column with it. -/
def under? (r : Row k) (header : String) : Option String := (k.withHeader? header).map r.get

/-! ## Column by column -/

/-- Writes the text of a column of `source` under the column with the same header, if there is one. -/
def copy (source : Row d) (r : Row k) (c : Column) : Row k :=
  match k.withHeader? c.header with
  | some shared => r.set shared (source.get c)
  | none => r

/-- Copies the columns of `source`, one after the other. -/
def copyAll (r : Row k) (source : Row d) : Row k := d.columns.foldl (copy source) r

theorem get_copy (source : Row d) (r : Row k) (c' : Column) :
    (copy source r c').get c = if c = c' ∧ c' ∈ k.columns then source.get c else r.get c := by
  unfold copy
  by_cases hc' : c' ∈ k.columns
  · rw [Kind.withHeader?_of_mem hc']
    refine (get_set r c' c _).trans (ite_congr rfl (fun h => ?_) fun _ => rfl)
    rw [h.1]
  · rw [Kind.withHeader?_of_not_mem hc', if_neg fun h => hc' h.2]

theorem get_foldl_copy (source : Row d) (cs : List Column) (r : Row k) :
    (cs.foldl (copy source) r).get c = if c ∈ k.columns ∧ c ∈ cs then source.get c else r.get c := by
  induction cs generalizing r with
  | nil => exact (if_neg fun h => nomatch h.2).symm
  | cons c' cs ih =>
    rw [List.foldl_cons, ih, get_copy]
    by_cases hk : c ∈ k.columns
    · by_cases hc : c = c'
      · -- written now: were the column to come again, the same text would be written again
        subst hc
        simp [hk]
      · simp [hk, hc]
    · have hne : ¬ (c = c' ∧ c' ∈ k.columns) := fun h => hk (h.1 ▸ h.2)
      simp [hk, hne]

theorem copyAll_eq_overlay (r : Row k) (source : Row d) : r.copyAll source = r.overlay source := by
  apply ext_columns
  intro c _
  rw [copyAll, get_foldl_copy, get_overlay]

/-! ## The laws -/

theorem under?_overlay (r : Row k) (source : Row d) (header : String) :
    (r.overlay source).under? header = (r.under? header).map fun v => (source.under? header).getD v := by
  cases hk : k.withHeader? header with
  | none => simp [under?, hk]
  | some c =>
    obtain ⟨hmem, rfl⟩ := Kind.withHeader?_eq_some_iff.1 hk
    have hunder : ∀ r : Row k, r.under? c.header = some (r.get c) := fun r => congrArg (Option.map r.get) hk
    rw [hunder, hunder, Option.map_some, get_overlay]
    by_cases hd : c ∈ d.columns
    · rw [if_pos ⟨hmem, hd⟩, under?, Kind.withHeader?_of_mem hd]
      rfl
    · rw [if_neg fun h => hd h.2, under?, Kind.withHeader?_of_not_mem hd]
      rfl

theorem overlay_overlay (r : Row k) (source : Row d) : (r.overlay source).overlay source = r.overlay source := by
  apply ext_columns
  intro c _
  rw [get_overlay]
  split
  · rename_i h
    rw [get_overlay, if_pos h]
  · rfl

theorem overlay_project (r : Row k) (d : Kind) : r.overlay (r.project d) = r := by
  apply ext_columns
  intro c _
  rw [get_overlay]
  split
  · rename_i h
    exact get_project r h.2 h.1
  · rfl

/-- **An overlay goes by headers.** For rows of any two kinds, copying the columns of the source one after the other,
each to the first column with its header, makes the overlay. Under every header that both kinds have stands the text of
the source then, and under every other one what stood there. The same overlay a second time changes nothing, and neither
does one with what the row itself has in common with another kind. -/
theorem overlay_by_header (r : Row k) (source : Row d) :
    r.copyAll source = r.overlay source ∧
    (∀ header, (r.overlay source).under? header = (r.under? header).map fun v => (source.under? header).getD v) ∧
    (r.overlay source).overlay source = r.overlay source ∧ r.overlay (r.project d) = r :=
  ⟨copyAll_eq_overlay r source, under?_overlay r source, overlay_overlay r source, overlay_project r d⟩

/-- A blank text of the source counts like any other, and a transient column that only the row has is kept. -/
example :
    (ofPairs .courses [(.courseId, "2015-B-1"), (.evaluate, "Y"), (.sectionId, "1")]).overlay
      (ofPairs .courseConfirmation [(.courseId, "2015-B-2"), (.ldapUid, "9")]) =
    ofPairs .courses [(.courseId, "2015-B-2"), (.sectionId, "1")] := by decide +kernel

end Row

end Registrar
