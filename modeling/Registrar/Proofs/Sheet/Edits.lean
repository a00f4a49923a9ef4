import Mathlib.Data.List.Induction
import Registrar.Proofs.Batches
import Registrar.Proofs.Keyed
import Registrar.Proofs.Sheet.Order

/-!
# Sheets under edits

An `Edit` stores a row under a key or changes the row that stands there. What a sheet holds after edits is said by the
edits alone: its keys are those that were stored, each where it was stored first (`keys_performAll`), and the row under
a key is what the edits with that key make of it, one after the other (`Edit.rowAfter`, `get?_performAll`). So a sheet
is a map that remembers the order of its keys, and everything that it is asked for is read off that map
(`sheet_of_edits`).
-/

namespace Registrar

variable {k : Kind}

/-- Stores a row under a key, or changes the row under a key, if there is one. -/
inductive Edit (k : Kind) where
  | insert (key : String) (r : Row k)
  | modify (key : String) (f : Row k → Row k)

namespace Edit

/-- The key whose row is edited. -/
def key : Edit k → String
  | insert key _ => key
  | modify key _ => key

/-- What the edit makes of the row under its key. -/
def apply (held : Option (Row k)) : Edit k → Option (Row k)
  | insert _ r => some r
  | modify _ f => held.map f

/-- The keys under which rows are stored. -/
def stored : List (Edit k) → List String
  | [] => []
  | insert key _ :: rest => key :: stored rest
  | modify _ _ :: rest => stored rest

/-- The row under a key after the edits: each edit with this key changes what the one before left. -/
def rowAfter (edits : List (Edit k)) (x : String) : Option (Row k) :=
  (edits.filter fun e => e.key = x).foldl apply none

theorem stored_append (edits edits' : List (Edit k)) : stored (edits ++ edits') = stored edits ++ stored edits' := by
  induction edits with
  | nil => rfl
  | cons e rest ih => cases e <;> simp [stored, ih]

end Edit

namespace Sheet

/-- The sheet after an edit. -/
def perform (s : Sheet k) : Edit k → Sheet k
  | .insert key r => s.insert key r
  | .modify key f => s.modify key f

/-- The sheet after edits, one after the other. -/
def performAll (s : Sheet k) (edits : List (Edit k)) : Sheet k := edits.foldl perform s

/-! ## One edit -/

/-- An edit changes the row under its key and no other. -/
theorem get?_perform (s : Sheet k) (e : Edit k) (x : String) :
    (s.perform e).get? x = if e.key = x then e.apply (s.get? x) else s.get? x := by
  cases e with
  | insert key r =>
    show (s.rows.insert key r).get? x = if key = x then some r else s.get? x
    rw [Keyed.get?_insert]
    exact ite_congr (propext eq_comm) (fun _ => rfl) fun _ => rfl
  | modify key f =>
    show (s.modify key f).get? x = if key = x then (s.get? x).map f else s.get? x
    unfold modify
    split
    · rename_i r hr
      show (s.rows.insert key (f r)).get? x = _
      rw [Keyed.get?_insert]
      by_cases hx : key = x
      · subst hx
        rw [if_pos rfl, if_pos rfl, hr]
        rfl
      · rw [if_neg (Ne.symm hx), if_neg hx]
        rfl
    · rename_i hnone
      split
      · rename_i hx
        rw [← hx, hnone]
        rfl
      · rfl

/-- Only a row under a new key adds a key, behind the others. -/
theorem keys_perform (s : Sheet k) (e : Edit k) :
    (s.perform e).rows.keys = distinct (s.rows.keys ++ Edit.stored [e]) := by
  have hnodup : s.rows.keys.Nodup := s.rows.nodup_keys
  cases e with
  | insert key r =>
    show (s.rows.insert key r).keys = distinct (s.rows.keys ++ [key])
    rw [Keyed.keys_insert, distinct_append_singleton, distinct_of_nodup hnodup]
  | modify key f =>
    show (s.modify key f).rows.keys = distinct (s.rows.keys ++ [])
    rw [List.append_nil, distinct_of_nodup hnodup]
    unfold modify
    split
    · rename_i r hr
      exact Keyed.keys_insert_of_mem _ (Keyed.mem_keys_iff.2 ⟨r, hr⟩)
    · rfl

/-! ## All edits -/

variable {name : Option String} {edits : List (Edit k)}

theorem performAll_append_singleton (s : Sheet k) (edits : List (Edit k)) (e : Edit k) :
    s.performAll (edits ++ [e]) = (s.performAll edits).perform e := by
  rw [performAll, List.foldl_append]
  rfl

theorem get?_performAll (edits : List (Edit k)) (x : String) :
    (performAll { name := name } edits).get? x = Edit.rowAfter edits x := by
  induction edits using List.reverseRecOn with
  | nil => rfl
  | append_singleton edits e ih =>
    rw [performAll_append_singleton, get?_perform, ih, Edit.rowAfter, Edit.rowAfter, List.filter_append,
      List.foldl_append, List.filter_singleton]
    by_cases hx : e.key = x
    · rw [if_pos hx, decide_eq_true hx]
      rfl
    · rw [if_neg hx, decide_eq_false hx]
      rfl

theorem keys_performAll (edits : List (Edit k)) :
    (performAll { name := name } edits).rows.keys = distinct (Edit.stored edits) := by
  induction edits using List.reverseRecOn with
  | nil => rfl
  | append_singleton edits e ih =>
    rw [performAll_append_singleton, keys_perform, ih, Edit.stored_append]
    -- what was told apart already is told apart again
    rw [distinct_append, distinct_append, distinct_of_nodup (nodup_distinct _)]
    simp only [mem_distinct]

/-- The entries are the stored keys, each with the row that the edits of its key leave. -/
theorem entries_performAll (edits : List (Edit k)) :
    (performAll { name := name } edits).entries =
      (distinct (Edit.stored edits)).filterMap fun x => (Edit.rowAfter edits x).map fun r => (x, r) := by
  rw [← keys_performAll]
  refine (Keyed.entries_eq_filterMap _).trans (List.filterMap_congr fun x _ => ?_)
  rw [← get?_performAll]
  rfl

theorem contains_performAll_iff {x : String} :
    (performAll { name := name } edits).contains x = true ↔ x ∈ Edit.stored edits := by
  rw [← mem_distinct, ← keys_performAll]
  exact Keyed.contains_iff_mem_keys

theorem size_performAll (edits : List (Edit k)) :
    (performAll { name := name } edits).size = (distinct (Edit.stored edits)).length := by
  rw [← keys_performAll]
  exact (List.length_map _).symm

theorem isEmpty_performAll_iff :
    (performAll { name := name } edits).rows.isEmpty = true ↔ Edit.stored edits = [] := by
  have hnil : distinct (Edit.stored edits) = [] ↔ Edit.stored edits = [] := by
    cases Edit.stored edits <;> simp [distinct]
  rw [← hnil, ← keys_performAll]
  exact List.isEmpty_iff.trans List.map_eq_nil_iff.symm

/-- **A sheet is a map in the order of first storing.** After any edits of an empty sheet, the keys are told apart and
come in the order in which they were stored first, each with the row that the edits of its key leave. A key, stored or
not, is looked up and tested for in that map, and the number of rows is that of its keys. The rows with a text under a
column are those of the entries, in their order. An export has the rows of the entries, in the order of their sort keys,
and those with the same sort key as they come in the sheet. -/
theorem sheet_of_edits (k : Kind) (name : Option String) (edits : List (Edit k)) :
    let s := performAll { name := name } edits
    FirstAppearances (Edit.stored edits) (s.entries.map Prod.fst) ∧ (s.entries.map Prod.fst).Nodup ∧
    s.entries = (distinct (Edit.stored edits)).filterMap (fun x => (Edit.rowAfter edits x).map fun r => (x, r)) ∧
    (∀ x, s.get? x = Edit.rowAfter edits x) ∧ (∀ x r, s.get? x = some r ↔ (x, r) ∈ s.entries) ∧
    (∀ x, s.contains x = true ↔ x ∈ Edit.stored edits) ∧
    s.size = (distinct (Edit.stored edits)).length ∧ (s.rows.isEmpty = true ↔ Edit.stored edits = []) ∧
    (∀ c v, s.matching c v = (s.entries.filter fun e => e.2.get c = v).map Prod.snd) ∧
    s.sortedRows.Perm (s.entries.map Prod.snd) ∧
    s.sortedRows.Pairwise (fun r r' => ¬ List.Lex (· < ·) (sortKey r') (sortKey r)) ∧
    ∀ key, s.sortedRows.filter (fun r => sortKey r = key) =
      (s.entries.map Prod.snd).filter fun r => sortKey r = key := by
  intro s
  have hkeys : s.entries.map Prod.fst = distinct (Edit.stored edits) := keys_performAll edits
  exact ⟨hkeys ▸ firstAppearances_distinct _, s.rows.nodup_keys, entries_performAll edits, get?_performAll edits,
    fun _ _ => Keyed.mem_entries_iff.symm, fun _ => contains_performAll_iff, size_performAll edits,
    isEmpty_performAll_iff, fun _ _ => List.filter_map, List.mergeSort_perm _ _,
    (sorted_sortedRows s).imp fun h => inOrder_iff.1 h, filter_sortedRows s⟩

end Sheet

end Registrar
