import Mathlib.Data.List.Nodup
import Registrar.Proofs.Text.Number
import Registrar.Sheet.Basic

/-!
# Numbered rows and export order

Rows keyed by their position stand in the sheet as they came (`entries_ofRows`). The order of an export is total and
transitive (`inOrder_total`, `inOrder_trans`), so the exported rows are in order and sorting them again changes nothing
(`sortedRows_of_toList`). It is the lexicographic order of the sort keys (`inOrder_iff`), and rows with the same key
stay in the order of the sheet (`filter_sortedRows`).
-/

namespace Registrar

/-! ## Storing under new keys -/

theorem Keyed.entries_insertAll {α : Type} {m : Keyed α} {pairs : List (String × α)}
    (h : (m.keys ++ pairs.map Prod.fst).Nodup) : (m.insertAll pairs).entries = m.entries ++ pairs := by
  induction pairs generalizing m with
  | nil => exact (List.append_nil _).symm
  | cons pair rest ih =>
    obtain ⟨key, value⟩ := pair
    have hnew : key ∉ m.keys := by
      intro hmem
      exact (List.nodup_append.1 h).2.2 key hmem key (by simp) rfl
    have hentries := Keyed.entries_insert_of_not_mem value hnew
    have hkeys : (m.insert key value).keys = m.keys ++ [key] := by
      rw [Keyed.keys, hentries, List.map_append]
      rfl
    have hrest : ((m.insert key value).keys ++ rest.map Prod.fst).Nodup := by
      rw [hkeys, List.append_assoc]
      exact h
    show ((m.insert key value).insertAll rest).entries = _
    rw [ih hrest, hentries, List.append_assoc]
    rfl

namespace Sheet

variable {k : Kind}

/-! ## Numbered rows -/

/-- The rows with their positions as keys. -/
def numbered (rows : List (Row k)) : List (String × Row k) := rows.zipIdx.map fun (r, i) => (toString i, r)

theorem map_fst_numbered (rows : List (Row k)) :
    (numbered rows).map Prod.fst = (List.range rows.length).map toString := by
  rw [numbered, List.map_map, List.range_eq_range', ← List.zipIdx_map_snd 0 rows, List.map_map]
  rfl

theorem map_snd_numbered (rows : List (Row k)) : (numbered rows).map Prod.snd = rows := by
  rw [numbered, List.map_map]
  exact List.zipIdx_map_fst 0 rows

theorem entries_ofRows (rows : List (Row k)) : (ofRows k rows).entries = numbered rows := by
  refine Keyed.entries_insertAll ?_
  show ([] ++ (numbered rows).map Prod.fst).Nodup
  rw [List.nil_append, map_fst_numbered]
  exact List.nodup_range.map fun _ _ h => Text.toString_nat_injective h

theorem toList_ofRows (rows : List (Row k)) : (ofRows k rows).toList = rows := by
  show (ofRows k rows).entries.map Prod.snd = rows
  rw [entries_ofRows, map_snd_numbered]

/-! ## Export order -/

theorem inOrder_total (as bs : List String) : (inOrder as bs || inOrder bs as) = true := by
  induction as generalizing bs with
  | nil => rfl
  | cons a as ih =>
    cases bs with
    | nil => rfl
    | cons b bs =>
      simp only [inOrder]
      by_cases hab : a = b
      · rw [if_pos hab, if_pos hab.symm]
        exact ih bs
      · rw [if_neg hab, if_neg fun hba => hab hba.symm, Bool.or_eq_true, decide_eq_true_eq, decide_eq_true_eq]
        rcases String.le_total a b with h | h
        · exact .inl (String.not_le.1 fun h' => hab (String.le_antisymm h h'))
        · exact .inr (String.not_le.1 fun h' => hab (String.le_antisymm h' h))

theorem inOrder_trans {as bs cs : List String} (hab : inOrder as bs = true) (hbc : inOrder bs cs = true) :
    inOrder as cs = true := by
  induction as generalizing bs cs with
  | nil => rfl
  | cons a as ih =>
    cases bs with
    | nil => cases hab
    | cons b bs =>
      cases cs with
      | nil => cases hbc
      | cons c cs =>
        simp only [inOrder] at hab hbc ⊢
        by_cases heq : a = b
        · subst heq
          rw [if_pos rfl] at hab
          by_cases hac : a = c
          · rw [if_pos hac] at hbc ⊢
            exact ih hab hbc
          · rw [if_neg hac] at hbc ⊢
            exact hbc
        · rw [if_neg heq, decide_eq_true_eq] at hab
          have hac : a < c := by
            by_cases hbc' : b = c
            · exact hbc' ▸ hab
            · rw [if_neg hbc', decide_eq_true_eq] at hbc
              exact String.lt_trans hab hbc
          have hne : a ≠ c := fun he => String.lt_irrefl c (he ▸ hac)
          rw [if_neg hne, decide_eq_true_eq]
          exact hac

theorem sorted_sortedRows (s : Sheet k) :
    s.sortedRows.Pairwise fun a b => inOrder (sortKey a) (sortKey b) = true := by
  unfold sortedRows
  apply List.pairwise_mergeSort
  · intro a b c
    exact inOrder_trans
  · intro a b
    exact inOrder_total (sortKey a) (sortKey b)

/-- A list of keys is in order where it does not come after the other one. -/
theorem inOrder_iff {as bs : List String} : inOrder as bs = true ↔ ¬ List.Lex (· < ·) bs as := by
  induction as generalizing bs with
  | nil => exact iff_of_true rfl nofun
  | cons a as ih =>
    cases bs with
    | nil => exact iff_of_false Bool.false_ne_true fun h => h .nil
    | cons b bs =>
      rw [inOrder, List.cons_lex_cons_iff]
      by_cases hab : a = b
      · subst b
        rw [if_pos rfl, ih]
        simp
      · rw [if_neg hab, decide_eq_true_eq]
        constructor
        · rintro hlt (hgt | ⟨heq, -⟩)
          · exact String.lt_irrefl a (String.lt_trans hlt hgt)
          · exact hab heq.symm
        · intro h
          refine String.not_le.1 fun hle => h (.inl ?_)
          exact String.not_le.1 fun hge => hab (String.le_antisymm hge hle)

/-- Rows with the same sort key keep their order. -/
theorem filter_sortedRows (s : Sheet k) (key : List String) :
    s.sortedRows.filter (fun r => sortKey r = key) = s.toList.filter fun r => sortKey r = key := by
  -- the rows with this key are in order already, so sorting leaves them one after the other
  have htied : (s.toList.filter fun r => sortKey r = key).Pairwise fun a b =>
      inOrder (sortKey a) (sortKey b) = true := by
    rw [List.pairwise_filter]
    refine List.pairwise_of_forall fun a b ha hb => ?_
    rw [of_decide_eq_true ha, of_decide_eq_true hb]
    simpa using inOrder_total key key
  have hsub : (s.toList.filter fun r => sortKey r = key).Sublist s.sortedRows := by
    unfold sortedRows
    refine List.sublist_mergeSort (fun a b c => ?_) (fun a b => ?_) htied List.filter_sublist
    · exact inOrder_trans
    · exact inOrder_total (sortKey a) (sortKey b)
  have htwice := hsub.filter fun r => decide (sortKey r = key)
  simp only [List.filter_filter, Bool.and_self] at htwice
  refine (htwice.eq_of_length ?_).symm
  exact ((List.mergeSort_perm _ _).filter _).length_eq.symm

theorem mem_sortedRows {s : Sheet k} {r : Row k} : r ∈ s.sortedRows ↔ r ∈ s.toList := List.mem_mergeSort

/-- A sheet that holds exported rows in export order exports them in the same order. -/
theorem sortedRows_of_toList {s t : Sheet k} (h : t.toList = s.sortedRows) : t.sortedRows = s.sortedRows := by
  rw [sortedRows, h]
  exact List.mergeSort_of_pairwise (sorted_sortedRows s)

end Sheet

end Registrar
