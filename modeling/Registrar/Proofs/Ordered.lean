import Registrar.Ordered
import Registrar.Proofs.Keyed

/-!
# Laws of collections in key order

What stands under a key after a change (`get?_update`). The key is entered where the first larger one stands, so no key
from there on is the same (`lookup_eq_none_of_lt`). A collection is determined by what it holds under each key
(`eq_of_get?`), so two changes under one key are one (`update_update`).
-/

namespace Registrar

theorem ne_of_key_lt {κ : Type} [LT κ] [Std.Irrefl (α := κ) (· < ·)] {k k' : κ} (h : k < k') : k ≠ k' := by
  rintro rfl
  exact Std.Irrefl.irrefl k h

variable {κ α : Type} [DecidableEq κ]

section Order

variable [LT κ] [Trans (α := κ) (· < ·) (· < ·) (· < ·)] [Std.Irrefl (α := κ) (· < ·)]

/-- A key below the first one of an ascending list is not in the list. -/
theorem lookup_eq_none_of_lt {k k₀ : κ} {v : α} {rest : List (κ × α)}
    (hasc : (((k₀, v) :: rest).map Prod.fst).Pairwise (· < ·)) (hk : k < k₀) :
    ((k₀, v) :: rest).lookup k = none := by
  refine lookup_eq_none fun hmem => ?_
  rcases List.mem_cons.1 hmem with rfl | hmem
  · exact Std.Irrefl.irrefl k hk
  · exact Std.Irrefl.irrefl k (Trans.trans hk ((List.pairwise_cons.1 hasc).1 k hmem))

variable [DecidableLT κ] [Std.Trichotomous (α := κ) (· < ·)]

theorem lookup_updateEntry (k k' : κ) (f : Option α → α) {l : List (κ × α)}
    (hasc : (l.map Prod.fst).Pairwise (· < ·)) :
    (updateEntry k f l).lookup k' = if k' = k then some (f (l.lookup k)) else l.lookup k' := by
  induction l with
  | nil => rw [updateEntry, lookup_cons_eq_ite, List.lookup_nil, List.lookup_nil]
  | cons e rest ih =>
    obtain ⟨k₀, v⟩ := e
    rw [updateEntry]
    split
    · rename_i hlt
      rw [lookup_eq_none_of_lt hasc hlt, lookup_cons_eq_ite]
    · rename_i hnlt
      split
      · rename_i hgt
        have hne : k ≠ k₀ := (ne_of_key_lt hgt).symm
        rw [lookup_cons_eq_ite, lookup_cons_eq_ite, lookup_cons_eq_ite, ih (List.pairwise_cons.1 hasc).2, if_neg hne]
        by_cases h : k' = k
        · rw [if_pos h, if_neg (h ▸ hne), if_pos h]
        · rw [if_neg h, if_neg h]
      · rename_i hngt
        obtain rfl : k = k₀ := Std.Trichotomous.trichotomous k k₀ hnlt hngt
        rw [lookup_cons_eq_ite, lookup_cons_eq_ite, lookup_cons_eq_ite, if_pos rfl]
        by_cases h : k' = k
        · rw [if_pos h, if_pos h]
        · rw [if_neg h, if_neg h, if_neg h]

/-- What stands under a key after a change. -/
theorem Ordered.get?_update (m : Ordered κ α) (k k' : κ) (f : Option α → α) :
    (m.update k f).get? k' = if k' = k then some (f (m.get? k)) else m.get? k' :=
  lookup_updateEntry k k' f m.ascending

namespace Ordered

omit [DecidableEq κ] [DecidableLT κ] [Trans (α := κ) (· < ·) (· < ·) (· < ·)] [Std.Trichotomous (α := κ) (· < ·)] in
theorem nodup_keys (m : Ordered κ α) : (m.entries.map Prod.fst).Nodup := m.ascending.imp ne_of_key_lt

omit [DecidableLT κ] [Trans (α := κ) (· < ·) (· < ·) (· < ·)] [Std.Trichotomous (α := κ) (· < ·)] in
theorem mem_entries_iff {m : Ordered κ α} {k : κ} {v : α} : (k, v) ∈ m.entries ↔ m.get? k = some v :=
  mem_iff_lookup m.nodup_keys

omit [DecidableLT κ] [Std.Trichotomous (α := κ) (· < ·)] in
theorem eq_of_get? {m n : Ordered κ α} (h : ∀ k, m.get? k = n.get? k) : m = n := by
  have hmem : ∀ e, e ∈ m.entries ↔ e ∈ n.entries := fun e => by
    rw [mem_entries_iff, mem_entries_iff, h]
  have hnodup : ∀ o : Ordered κ α, o.entries.Nodup := fun o =>
    (List.pairwise_map.1 o.ascending).imp fun hlt heq => ne_of_key_lt hlt (congrArg Prod.fst heq)
  have hperm : m.entries.Perm n.entries := (List.perm_ext_iff_of_nodup (hnodup m) (hnodup n)).2 hmem
  -- ascending lists with the same entries have them in the same order
  have hentries : m.entries = n.entries := by
    refine List.Perm.eq_of_pairwise (fun e e' _ _ hlt hgt => ?_) (List.pairwise_map.1 m.ascending)
      (List.pairwise_map.1 n.ascending) hperm
    exact absurd (Trans.trans hlt hgt) (Std.Irrefl.irrefl (r := (· < ·)) e.1)
  obtain ⟨l, hl⟩ := m
  obtain rfl : l = n.entries := hentries
  rfl

/-- Two changes under one key are one. -/
theorem update_update (m : Ordered κ α) (k : κ) (f g : Option α → α) :
    (m.update k f).update k g = m.update k fun held => g (some (f held)) := by
  refine eq_of_get? fun k' => ?_
  rw [get?_update, get?_update, get?_update, get?_update]
  split
  · rw [if_pos rfl]
  · rfl

end Ordered

end Order

end Registrar
