import Mathlib.Data.List.Induction
import Registrar.Evaluation.Integrity
import Registrar.Proofs.Batches
import Registrar.Proofs.Keyed
import Registrar.Proofs.Sheet.Row

/-!
# Sheets entered from a list

`Sheet.enterAll` goes through a list and stores a row under the key of each element, which may depend on the row that
stands there. Storing, storing what is new and completing what is there are all of this form (`foldl_insertNew`,
`foldl_enterOrFill`); storing what is new only adds to what was there (`entries_foldl_insertNew`). The keys of the sheet
are those of the list, each where it comes first (`keys_enterAll`), and what stands under a key depends on the elements
with that key alone (`get?_enterAll`): where they are stored as they are, it is the last one (`get?_enterAll_row`), and
where only new ones are stored, the first (`get?_foldl_insertNew`). Where elements with the same key say the same, all
that they say is said by the rows (`mem_map_toList_enterAll_iff`).

Where every row has its key in a column (`Sheet.KeyedBy`), the texts of that column are the keys (`values_of_keyedBy`).
-/

namespace Registrar.Sheet

variable {k : Kind} {α : Type} {key : α → String} {put : Option (Row k) → α → Row k} {s : Sheet k} {l : List α}

theorem eq_of_rows {t : Sheet k} (hrows : s.rows = t.rows) (hname : s.name = t.name) : s = t := by
  obtain ⟨rows, name⟩ := s
  obtain ⟨rows', name'⟩ := t
  rw [Sheet.mk.injEq]
  exact ⟨hrows, hname⟩

/-! ## What stands under the keys -/

/-- Stores a row under the key of an element, made from the element and from what stands there. -/
def enter (key : α → String) (put : Option (Row k) → α → Row k) (s : Sheet k) (a : α) : Sheet k :=
  s.insert (key a) (put (s.get? (key a)) a)

/-- Enters the elements of a list, one after the other. -/
def enterAll (key : α → String) (put : Option (Row k) → α → Row k) (s : Sheet k) (l : List α) : Sheet k :=
  l.foldl (enter key put) s

theorem enterAll_append_singleton (key : α → String) (put : Option (Row k) → α → Row k) (s : Sheet k) (l : List α)
    (a : α) : enterAll key put s (l ++ [a]) = enter key put (enterAll key put s l) a := by
  rw [enterAll, List.foldl_append]
  rfl

/-- The keys of a list come after those that were there, each where it comes first. -/
theorem keys_enterAll (key : α → String) (put : Option (Row k) → α → Row k) (s : Sheet k) (l : List α) :
    (enterAll key put s l).rows.keys = distinct (s.rows.keys ++ l.map key) := by
  induction l using List.reverseRecOn with
  | nil =>
    have hnodup : s.rows.keys.Nodup := s.rows.nodup_keys
    rw [List.map_nil, List.append_nil, distinct_of_nodup hnodup]
    rfl
  | append_singleton l a ih =>
    rw [enterAll_append_singleton, List.map_append, ← List.append_assoc, List.map_singleton, distinct_append_singleton]
    show (Keyed.insert _ _ _).keys = _
    rw [Keyed.keys_insert, ih]
    simp only [mem_distinct]

theorem name_enterAll (key : α → String) (put : Option (Row k) → α → Row k) (s : Sheet k) (l : List α) :
    (enterAll key put s l).name = s.name := by
  induction l using List.reverseRecOn with
  | nil => rfl
  | append_singleton l a ih =>
    rw [enterAll_append_singleton]
    exact ih

/-- What stands under a key is made from the elements with this key, in order. -/
theorem get?_enterAll (key : α → String) (put : Option (Row k) → α → Row k) (s : Sheet k) (l : List α) (x : String) :
    (enterAll key put s l).get? x =
      (l.filter fun a => key a = x).foldl (fun found a => some (put found a)) (s.get? x) := by
  induction l using List.reverseRecOn with
  | nil => rfl
  | append_singleton l a ih =>
    rw [enterAll_append_singleton, List.filter_append, List.foldl_append, ← ih]
    show (Keyed.insert _ _ _).get? x = _
    rw [Keyed.get?_insert]
    by_cases h : key a = x
    · subst h
      simp
    · rw [if_neg (Ne.symm h), List.filter_singleton, decide_eq_false h]
      rfl

/-! ## Ways of storing -/

theorem get?_empty (x : String) : ({} : Sheet k).get? x = none := rfl

/-- Storing what stands there changes nothing. -/
theorem insert_of_get? {x : String} {r : Row k} (h : s.get? x = some r) : s.insert x r = s := by
  obtain ⟨rows, name⟩ := s
  have hmem : x ∈ rows.keys := Keyed.mem_keys_iff.2 ⟨r, h⟩
  have hrows : rows.insert x r = rows := by
    refine Keyed.eq_of_get? (Keyed.keys_insert_of_mem r hmem) fun y => ?_
    rw [Keyed.get?_insert]
    split
    · rename_i hy
      rw [hy]
      exact h.symm
    · rfl
  rw [insert, hrows]

theorem insertNew_of_contains {x : String} {r : Row k} (h : s.contains x = true) : s.insertNew x r = s := by
  have hrows : s.rows.insertNew x r = s.rows := if_pos h
  rw [insertNew, hrows]

theorem insertNew_of_not_contains {x : String} {r : Row k} (h : s.contains x ≠ true) :
    s.insertNew x r = s.insert x r := by
  have hrows : s.rows.insertNew x r = s.rows.insert x r := if_neg h
  rw [insertNew, hrows, insert]

theorem insertNew_eq (s : Sheet k) (x : String) (r : Row k) : s.insertNew x r = s.insert x ((s.get? x).getD r) := by
  cases hfound : s.get? x with
  | none =>
    refine insertNew_of_not_contains fun hthere => ?_
    obtain ⟨found, hsome⟩ := Option.isSome_iff_exists.1 hthere
    exact nomatch hfound.symm.trans hsome
  | some found =>
    rw [Option.getD_some, insert_of_get? hfound, insertNew_of_contains (Option.isSome_iff_exists.2 ⟨found, hfound⟩)]

theorem contains_insert (s : Sheet k) (x : String) (r : Row k) (y : String) :
    (s.insert x r).contains y = (decide (y = x) || s.contains y) := by
  show (Keyed.get? _ y).isSome = _
  rw [insert, Keyed.get?_insert]
  by_cases hy : y = x
  · simp [hy]
  · rw [if_neg hy, decide_eq_false hy, Bool.false_or]
    rfl

/-- Storing only what is new adds the first element of each new key, in order, and changes nothing. -/
theorem entries_foldl_insertNew (key : α → String) (row : α → Row k) (s : Sheet k) (l : List α) :
    (l.foldl (fun s a => s.insertNew (key a) (row a)) s).entries =
      s.entries ++ ((l.filter fun a => !s.contains (key a)).eraseDupsBy fun a b => key a == key b).map fun a =>
        (key a, row a) := by
  induction l generalizing s with
  | nil =>
    rw [List.filter_nil, List.eraseDupsBy_nil, List.map_nil, List.append_nil]
    rfl
  | cons a rest ih =>
    rw [List.foldl_cons, ih]
    by_cases hthere : s.contains (key a) = true
    · rw [insertNew_of_contains hthere, List.filter_cons_of_neg (by rw [hthere]; exact Bool.false_ne_true)]
    · have hentries : (s.insert (key a) (row a)).entries = s.entries ++ [(key a, row a)] :=
        Keyed.entries_insert_of_not_mem _ fun hmem => hthere (Keyed.contains_iff_mem_keys.2 hmem)
      -- what is new now was new before and has another key
      have hrest : (rest.filter fun b => !(s.insert (key a) (row a)).contains (key b)) =
          (rest.filter fun b => !s.contains (key b)).filter fun b => decide ((key b == key a) = false) := by
        rw [List.filter_filter]
        refine List.filter_congr fun b _ => ?_
        rw [contains_insert]
        by_cases hb : key b = key a <;> simp [hb]
      rw [insertNew_of_not_contains hthere, hentries, hrest, List.filter_cons_of_pos (by simpa using hthere),
        List.eraseDupsBy_cons, List.map_cons, List.append_assoc, List.singleton_append]

theorem foldl_insertNew (key : α → String) (row : α → Row k) (s : Sheet k) (l : List α) :
    l.foldl (fun s a => s.insertNew (key a) (row a)) s = enterAll key (fun found a => found.getD (row a)) s l := by
  simp only [insertNew_eq]
  rfl

theorem foldl_enterOrFill (key : α → String) (row : α → Row k) (s : Sheet k) (l : List α) :
    l.foldl (fun s a => Publication.enterOrFill s (key a) (row a)) s =
      enterAll key (fun found a => (found.map fun there => there.fillFrom (row a)).getD (row a)) s l := by
  have hstep : (fun s a => Publication.enterOrFill s (key a) (row a)) =
      enter key fun found a => (found.map fun there => there.fillFrom (row a)).getD (row a) := by
    funext s a
    rw [Publication.enterOrFill, enter]
    split
    · rename_i there hthere
      rw [hthere]
      rfl
    · rename_i hnew
      rw [hnew]
      rfl
  rw [hstep, enterAll]

/-! ## What holds of the rows -/

theorem mem_toList_iff {r : Row k} : r ∈ s.toList ↔ ∃ x, s.get? x = some r := Keyed.mem_values_iff

/-- What holds of the rows that were there, and is kept by each element, holds of every row. -/
theorem of_get?_enterAll {P : String → Row k → Prop} (hs : ∀ x r, s.get? x = some r → P x r)
    (hput : ∀ a ∈ l, ∀ found, (∀ r, found = some r → P (key a) r) → P (key a) (put found a)) {x : String} {r : Row k}
    (h : (enterAll key put s l).get? x = some r) : P x r := by
  rw [get?_enterAll] at h
  have hmem : ∀ a ∈ l.filter fun a => key a = x, a ∈ l ∧ key a = x := fun a ha => by
    rwa [List.mem_filter, decide_eq_true_eq] at ha
  have hfound : ∀ r, s.get? x = some r → P x r := hs x
  revert h hmem hfound
  generalize s.get? x = found
  induction l.filter fun a => key a = x generalizing found with
  | nil => exact fun h _ hfound => hfound r h
  | cons a rest ih =>
    intro h hmem hfound
    obtain ⟨ha, rfl⟩ := hmem a List.mem_cons_self
    refine ih _ h (fun b hb => hmem b (List.mem_cons_of_mem _ hb)) fun r hr => ?_
    cases hr
    exact hput a ha found hfound

/-- What is stored later replaces what was there: under a key stands the row of the last element with it. -/
theorem get?_enterAll_row (key : α → String) (row : α → Row k) (l : List α) (x : String) :
    (enterAll key (fun _ => row) {} l).get? x = ((l.filter fun a => key a = x).getLast?).map row := by
  rw [get?_enterAll]
  -- only the end of the list matters
  obtain hnone | ⟨before, a, hlast⟩ := List.eq_nil_or_concat (l.filter fun a => key a = x)
  · rw [hnone]
    rfl
  · rw [hlast, List.concat_eq_append, List.foldl_append, List.getLast?_concat, List.foldl_cons, List.foldl_nil,
      Option.map_some]

/-- What is there stays: where only new rows are stored, under a key stands the row of the first element with it. -/
theorem get?_foldl_insertNew (key : α → String) (row : α → Row k) (l : List α) (x : String) :
    (l.foldl (fun s a => s.insertNew (key a) (row a)) ({} : Sheet k)).get? x =
      (l.find? fun a => key a = x).map row := by
  have hstays : ∀ (r : Row k) (rest : List α),
      rest.foldl (fun found a => some (found.getD (row a))) (some r) = some r := by
    intro r rest
    induction rest with
    | nil => rfl
    | cons _ _ ih => exact ih
  rw [foldl_insertNew, get?_enterAll, get?_empty, ← List.head?_filter]
  cases l.filter fun a => key a = x with
  | nil => rfl
  | cons a rest => exact hstays (row a) rest

/-- A row that is completed from one element after the other says what was said before, or else what the first of them
says that says anything. -/
theorem said?_foldl_merge (row : α → Row k) (found : Option (Row k)) (l : List α) (c : Column) :
    (l.foldl (fun found a => found.merge Row.fillFrom (some (row a))) found).bind (·.said? c) =
      (found.bind (·.said? c)).or (l.findSome? fun a => (row a).said? c) := by
  induction l generalizing found with
  | nil => rw [List.foldl_nil, List.findSome?_nil, Option.or_none]
  | cons a rest ih =>
    rw [List.foldl_cons, ih, Row.bind_said?_merge, Option.or_assoc, Option.bind_some, List.findSome?_cons]
    cases (row a).said? c <;> rfl

theorem said?_foldl_enterOrFill (key : α → String) (row : α → Row k) (l : List α) (x : String) (c : Column) :
    ((l.foldl (fun s a => Publication.enterOrFill s (key a) (row a)) {}).get? x).bind (·.said? c) =
      (l.filter fun a => key a = x).findSome? fun a => (row a).said? c := by
  have hput : ∀ (found : Option (Row k)) a, some ((found.map fun there => there.fillFrom (row a)).getD (row a)) =
      found.merge Row.fillFrom (some (row a)) := by
    intro found a
    cases found <;> rfl
  rw [foldl_enterOrFill, get?_enterAll, get?_empty]
  simp only [hput]
  exact said?_foldl_merge row none _ c

/-- A row of a list that is stored is that of an element with its key. -/
theorem exists_of_get?_enterAll {row : α → Row k} {x : String} {r : Row k}
    (h : (enterAll key (fun _ => row) {} l).get? x = some r) : ∃ a ∈ l, key a = x ∧ row a = r :=
  of_get?_enterAll (P := fun x r => ∃ a ∈ l, key a = x ∧ row a = r) (fun _ _ hnone => by cases hnone)
    (fun a ha _ _ => ⟨a, ha, rfl, rfl⟩) h

/-- Where elements with the same key say the same, the rows say what all elements say. -/
theorem mem_map_toList_enterAll_iff {β : Type} {row : α → Row k} {f : Row k → β} {y : β}
    (hkey : ∀ a ∈ l, ∀ b ∈ l, key a = key b → f (row a) = f (row b)) :
    y ∈ (enterAll key (fun _ => row) {} l).toList.map f ↔ ∃ a ∈ l, f (row a) = y := by
  rw [List.mem_map]
  constructor
  · rintro ⟨r, hr, rfl⟩
    obtain ⟨x, hx⟩ := mem_toList_iff.1 hr
    obtain ⟨a, ha, -, rfl⟩ := exists_of_get?_enterAll hx
    exact ⟨a, ha, rfl⟩
  · rintro ⟨a, ha, rfl⟩
    have hthere : key a ∈ (enterAll key (fun _ => row) {} l).rows.keys := by
      rw [keys_enterAll, mem_distinct]
      exact List.mem_append_right _ (List.mem_map_of_mem ha)
    obtain ⟨r, hr⟩ := Keyed.mem_keys_iff.1 hthere
    obtain ⟨b, hb, hkeys, rfl⟩ := exists_of_get?_enterAll hr
    exact ⟨row b, mem_toList_iff.2 ⟨_, hr⟩, hkey b hb a ha hkeys⟩

/-- Where elements with the same key have the same row, the rows are those of all elements. -/
theorem mem_toList_enterAll_iff {row : α → Row k} (hkey : ∀ a ∈ l, ∀ b ∈ l, key a = key b → row a = row b)
    {r : Row k} : r ∈ (enterAll key (fun _ => row) {} l).toList ↔ ∃ a ∈ l, row a = r := by
  have hrows := mem_map_toList_enterAll_iff (f := id) (y := r) hkey
  rwa [List.map_id] at hrows

/-! ## Keys that rows tell -/

/-- Where every row tells its key, the rows tell the keys in their order. -/
theorem map_toList_of_forall {f : Row k → String} (hs : ∀ x r, s.get? x = some r → f r = x) :
    s.toList.map f = s.rows.keys := by
  show s.rows.values.map f = _
  rw [Keyed.values_eq_filterMap, List.map_filterMap]
  calc s.rows.keys.filterMap (fun x => (s.rows.get? x).map f)
      = s.rows.keys.filterMap some := List.filterMap_congr fun x hx => by
        obtain ⟨r, hr⟩ := Keyed.mem_keys_iff.1 hx
        rw [hr, Option.map_some, hs x r hr]
    _ = s.rows.keys := List.filterMap_some

/-- What tells the key of a row is told by one row only. -/
theorem nodup_map_toList {β : Type} {f : Row k → β} {g : β → String} (hs : ∀ x r, s.get? x = some r → g (f r) = x) :
    (s.toList.map f).Nodup := by
  have hkeys : (s.toList.map f).map g = s.rows.keys := by
    rw [List.map_map]
    exact map_toList_of_forall hs
  have hnodup : s.rows.keys.Nodup := s.rows.nodup_keys
  rw [← hkeys] at hnodup
  exact hnodup.of_map _

/-- Storing what is new from a sheet that this one has grown into gives that sheet. -/
theorem foldl_insertNew_of_grown {f : Row k → String} {t : Sheet k} (hname : s.name = t.name)
    (hkeys : s.rows.keys <+: t.rows.keys) (hrows : ∀ x r, s.get? x = some r → t.get? x = some r)
    (ht : ∀ x r, t.get? x = some r → f r = x) : t.toList.foldl (fun s r => s.insertNew (f r) r) s = t := by
  refine (foldl_insertNew f id s t.toList).trans (eq_of_rows (Keyed.eq_of_holds ?_ ?_) ?_)
  · rw [keys_enterAll]
    show distinct (s.rows.keys ++ t.toList.map f) = _
    rw [map_toList_of_forall ht, distinct_append_of_prefix hkeys t.rows.nodup_keys]
  · refine fun x r hr => of_get?_enterAll (P := fun x r => t.get? x = some r) hrows ?_ hr
    intro r hr found hfound
    cases found with
    | some there => exact hfound there rfl
    | none =>
      obtain ⟨x, hx⟩ := mem_toList_iff.1 hr
      exact (ht x r hx).symm ▸ hx
  · exact (name_enterAll _ _ _ _).trans hname

/-! ## Keys in a column -/

/-- Every row has its key in a column. -/
def KeyedBy (s : Sheet k) (c : Column) : Prop := ∀ x r, s.get? x = some r → r.get c = x

theorem keyedBy_empty (c : Column) : ({} : Sheet k).KeyedBy c := fun _ _ hnone => by cases hnone

theorem KeyedBy.enterAll {c : Column} (hs : s.KeyedBy c)
    (hput : ∀ a ∈ l, ∀ found, (∀ r, found = some r → r.get c = key a) → (put found a).get c = key a) :
    (enterAll key put s l).KeyedBy c :=
  fun _ _ => of_get?_enterAll (P := fun x r => r.get c = x) hs hput

theorem values_of_keyedBy {c : Column} (hs : s.KeyedBy c) : Integrity.values s c = s.rows.keys :=
  map_toList_of_forall hs

/-- The row of a key is the only one with it. -/
theorem matching_of_keyedBy {c : Column} (hs : s.KeyedBy c) (x : String) : s.matching c x = (s.get? x).toList := by
  have hrows : s.toList = s.rows.keys.filterMap s.get? := Keyed.values_eq_filterMap s.rows
  have hnodup : s.rows.keys.Nodup := s.rows.nodup_keys
  rw [matching, hrows, filter_filterMap_of_nodup hnodup fun y _ r hr => by rw [hs y r hr]]
  split
  · rfl
  · rename_i hnone
    rw [show s.get? x = none from lookup_eq_none hnone]
    rfl

/-- Storing what is new keeps rows under what they tell. -/
theorem KeyedBy.insertedNew {c : Column} {row : α → Row k} (hs : s.KeyedBy c) (hrow : ∀ a ∈ l, (row a).get c = key a) :
    (l.foldl (fun s a => s.insertNew (key a) (row a)) s).KeyedBy c := by
  rw [foldl_insertNew]
  apply hs.enterAll
  intro a ha found hfound
  cases found with
  | none => exact hrow a ha
  | some there => exact hfound there rfl

/-- The texts of a column that holds the keys of what is new: each key once, where it comes first. -/
theorem values_insertNew {c : Column} {row : α → Row k} (hrow : ∀ a ∈ l, (row a).get c = key a) :
    Integrity.values (l.foldl (fun s a => s.insertNew (key a) (row a)) {}) c = distinct (l.map key) := by
  rw [values_of_keyedBy ((keyedBy_empty c).insertedNew hrow), foldl_insertNew, keys_enterAll]
  rfl

theorem KeyedBy.completed {c : Column} {row : α → Row k} (hs : s.KeyedBy c) (hrow : ∀ a ∈ l, (row a).get c = key a) :
    (Sheet.enterAll key (fun found a => (found.map fun there => there.fillFrom (row a)).getD (row a)) s l).KeyedBy
      c := by
  apply hs.enterAll
  intro a ha found hfound
  cases found with
  | none => exact hrow a ha
  | some there =>
    -- a completed row takes the text from either, and it is the same in both
    show (there.fillFrom (row a)).get c = key a
    rw [Row.get_fillFrom, hrow a ha, hfound there rfl]
    exact ite_self _

theorem values_enterOrFill {c : Column} {row : α → Row k} (hrow : ∀ a ∈ l, (row a).get c = key a) :
    Integrity.values (l.foldl (fun s a => Publication.enterOrFill s (key a) (row a)) {}) c = distinct (l.map key) := by
  rw [foldl_enterOrFill, values_of_keyedBy ((keyedBy_empty c).completed hrow), keys_enterAll]
  rfl

end Registrar.Sheet
