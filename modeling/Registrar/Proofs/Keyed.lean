import Mathlib.Data.List.Induction
import Mathlib.Data.List.Perm.Subperm
import Registrar.Keyed

/-!
# Laws of keyed collections

A collection holds its entries (`mem_entries_iff`) and is determined by its keys and by what it holds under each
(`eq_of_get?`). What is stored last under a key stays there (`get?_foldl_insert`). Storing never drops a key
(`keys_prefix_insert`), so a collection that has grown from another one and holds the same under every key has not grown
at all (`eq_of_prefix`).
-/

namespace Registrar

/-! ## Entries under keys -/

section Entries

variable {κ α : Type} [DecidableEq κ] {l : List (κ × α)} {k : κ} {v : α}

theorem lookup_eq_none (h : k ∉ l.map Prod.fst) : l.lookup k = none := by
  rw [List.lookup_eq_none_iff]
  intro e he
  have hne : k ≠ e.1 := fun hk => h (hk ▸ List.mem_map_of_mem he)
  simpa using hne

theorem lookup_cons_eq_ite (k k₀ : κ) (v : α) (rest : List (κ × α)) :
    ((k₀, v) :: rest).lookup k = if k = k₀ then some v else rest.lookup k := by
  rw [List.lookup_cons]
  by_cases h : k = k₀
  · rw [if_pos h, beq_iff_eq.2 h]
  · rw [if_neg h, beq_eq_false_iff_ne.2 h]

/-- Where no key comes twice, what is found under a key is the entry with this key. -/
theorem mem_iff_lookup (hn : (l.map Prod.fst).Nodup) : (k, v) ∈ l ↔ l.lookup k = some v := by
  rw [List.lookup_eq_some_iff]
  constructor
  · intro hmem
    obtain ⟨front, back, rfl⟩ := List.append_of_mem hmem
    refine ⟨front, back, rfl, fun e he => ?_⟩
    rw [List.map_append, List.nodup_append] at hn
    rw [bne_iff_ne]
    exact (hn.2.2 e.1 (List.mem_map_of_mem he) k (by simp)).symm
  · rintro ⟨front, back, rfl, -⟩
    exact List.mem_append_right _ List.mem_cons_self

end Entries

/-! ## Keyed collections -/

namespace Keyed

variable {α : Type} {m n : Keyed α} {k : String}

theorem mem_entries_iff {v : α} : (k, v) ∈ m.entries ↔ m.get? k = some v := mem_iff_lookup m.nodup_keys

theorem keys_prefix_insert (m : Keyed α) (k : String) (v : α) : m.keys <+: (m.insert k v).keys := by
  rw [keys_insert]
  split
  · exact List.prefix_rfl
  · exact List.prefix_append _ _

/-- What stands under a key is what the last one for it stored, or what stood there before. -/
theorem get?_foldl_insert {β : Type} (key : β → String) (value : β → α) (items : List β) (m : Keyed α) (k : String) :
    (items.foldl (fun m b => m.insert (key b) (value b)) m).get? k =
      ((items.filter fun b => key b = k).getLast?.map value).or (m.get? k) := by
  induction items using List.reverseRecOn with
  | nil => rfl
  | append_singleton rest b ih =>
    rw [List.foldl_append, List.foldl_cons, List.foldl_nil, get?_insert, ih, List.filter_append]
    by_cases hb : key b = k
    · rw [if_pos hb.symm]
      simp [hb]
    · rw [if_neg fun h => hb h.symm]
      simp [hb]

theorem mem_keys_iff : k ∈ m.keys ↔ ∃ v, m.get? k = some v := by
  rw [← contains_iff_mem_keys, contains, Option.isSome_iff_exists]

theorem eq_of_get? (hkeys : m.keys = n.keys) (hget : ∀ k, m.get? k = n.get? k) : m = n := by
  obtain ⟨l, hl⟩ := m
  obtain ⟨l', hl'⟩ := n
  simp only [keys, get?] at hkeys hget
  congr 1
  induction l generalizing l' with
  | nil => exact (List.map_eq_nil_iff.1 hkeys.symm).symm
  | cons e rest ih =>
    cases l' with
    | nil => cases hkeys
    | cons e' rest' =>
      obtain ⟨k, v⟩ := e
      obtain ⟨k', v'⟩ := e'
      obtain ⟨rfl, hrest⟩ := List.cons.inj hkeys
      simp only [List.map_cons, List.nodup_cons] at hl hl'
      have hv : v = v' := by simpa using hget k
      have hget' : ∀ x, rest.lookup x = rest'.lookup x := by
        intro x
        by_cases hx : x = k
        · subst hx
          -- the first key does not come again
          rw [lookup_eq_none hl.1, lookup_eq_none hl'.1]
        · simpa [List.lookup_cons, beq_eq_false_iff_ne.2 hx] using hget x
      rw [hv, ih hl.2 rest' hl'.2 hrest hget']

/-- Under the same keys it is enough that what the one holds is held by the other. -/
theorem eq_of_holds (hkeys : m.keys = n.keys) (hholds : ∀ k v, m.get? k = some v → n.get? k = some v) : m = n := by
  refine eq_of_get? hkeys fun k => ?_
  cases hm : m.get? k with
  | some v => exact (hholds k v hm).symm
  | none =>
    have hk : k ∉ n.keys := fun hk => by
      obtain ⟨v, hv⟩ := mem_keys_iff.1 (hkeys ▸ hk)
      exact nomatch hm.symm.trans hv
    cases hn : n.get? k with
    | none => rfl
    | some v => exact absurd (mem_keys_iff.2 ⟨v, hn⟩) hk

theorem eq_of_prefix (hkeys : m.keys <+: n.keys) (hget : ∀ k, n.get? k = m.get? k) : n = m := by
  refine eq_of_get? ?_ hget
  have hsub : n.keys ⊆ m.keys := by
    intro k hk
    rw [mem_keys_iff] at hk ⊢
    rwa [← hget]
  have hlen : n.keys.length ≤ m.keys.length := (List.subperm_of_subset n.nodup_keys hsub).length_le
  exact (hkeys.eq_of_length_le hlen).symm

/-- Every value is held under a key. -/
theorem mem_values_iff {v : α} : v ∈ m.values ↔ ∃ k, m.get? k = some v := by
  simp only [values, List.mem_map, ← mem_entries_iff, Prod.exists, exists_eq_right]

/-- The entries are the keys with what is held under them, in their order. -/
theorem entries_eq_filterMap (m : Keyed α) : m.entries = m.keys.filterMap fun x => (m.get? x).map fun v => (x, v) := by
  obtain ⟨l, hl⟩ := m
  show l = (l.map Prod.fst).filterMap fun x => (l.lookup x).map fun v => (x, v)
  induction l with
  | nil => rfl
  | cons e rest ih =>
    obtain ⟨k, v⟩ := e
    obtain ⟨hk, hrest⟩ := List.nodup_cons.1 hl
    -- looking up passes over the first entry, since its key does not come again
    have hlookup : ∀ x ∈ rest.map Prod.fst, ((k, v) :: rest).lookup x = rest.lookup x := by
      intro x hx
      have hne : x ≠ k := fun heq => hk (heq ▸ hx)
      rw [List.lookup_cons, beq_eq_false_iff_ne.2 hne]
    have hhead : ((k, v) :: rest).lookup k = some v := List.lookup_cons_self
    have hothers : ((rest.map Prod.fst).filterMap fun x => (((k, v) :: rest).lookup x).map fun v => (x, v)) = rest :=
      (List.filterMap_congr fun x hx => by rw [hlookup x hx]).trans (ih hrest).symm
    show _ = (k :: rest.map Prod.fst).filterMap _
    rw [List.filterMap_cons, hhead, Option.map_some, hothers]

/-- The values are what is held under the keys, in their order. -/
theorem values_eq_filterMap (m : Keyed α) : m.values = m.keys.filterMap m.get? := by
  rw [values, entries_eq_filterMap, List.map_filterMap]
  refine List.filterMap_congr fun x _ => ?_
  cases m.get? x <;> rfl

theorem isEmpty_of_get? {k : String} {v : α} (h : m.get? k = some v) : m.isEmpty = false := by
  obtain ⟨front, back, hentries, -⟩ := List.lookup_eq_some_iff.1 h
  rw [isEmpty, hentries]
  simp

end Keyed

end Registrar
