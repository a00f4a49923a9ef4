import Mathlib.Data.List.Nodup
import Registrar.Evaluation.Merge
import Registrar.Proofs.Text.Number

/-!
# Slots of a natural key

Rows under one natural key stand in numbered slots. The slots of a key have different names (`slotName_injective`), so
among one more slot than there are keys taken some slot is free, and the search ends at the first one (`freeSlot_spec`).
-/

namespace Registrar.Merge

theorem slotName_zero (key : String) : slotName key 0 = key := if_pos rfl

theorem slotName_succ (key : String) (i : Nat) :
    slotName key (i + 1) = key ++ (" (" ++ toString (i + 1 + 1) ++ ")") := by
  rw [slotName, if_neg (Nat.succ_ne_zero i)]
  simp only [String.append_assoc]
  rfl

theorem slotName_injective {key : String} {i j : Nat} (h : slotName key i = slotName key j) : i = j := by
  cases i with
  | zero =>
    cases j with
    | zero => rfl
    | succ j =>
      rw [slotName_zero, slotName_succ] at h
      have := congrArg String.length h
      simp at this
  | succ i =>
    cases j with
    | zero =>
      rw [slotName_zero, slotName_succ] at h
      have := congrArg String.length h
      simp at this
    | succ j =>
      rw [slotName_succ, slotName_succ] at h
      have hn : toString (i + 1 + 1) = toString (j + 1 + 1) := by simpa using h
      have := Text.toString_nat_injective hn
      omega

/-- `slot` is the first slot of a key that is not taken. -/
def IsFirstFree (taken : List String) (key slot : String) : Prop :=
  ∃ i, slot = slotName key i ∧ slot ∉ taken ∧ ∀ j, j < i → slotName key j ∈ taken

/-- Some slot among the first is free: there are more of them than keys taken. -/
theorem exists_free (taken : List String) (key : String) : ∃ i, i < taken.length + 1 ∧ slotName key i ∉ taken := by
  apply Classical.byContradiction
  intro hnone
  have hall : ∀ i, i < taken.length + 1 → slotName key i ∈ taken := by
    intro i hi
    apply Classical.byContradiction
    intro hf
    exact hnone ⟨i, hi, hf⟩
  have hnodup : ((List.range (taken.length + 1)).map (slotName key)).Nodup :=
    List.nodup_range.map fun _ _ => slotName_injective
  have hsub : (List.range (taken.length + 1)).map (slotName key) ⊆ taken := by
    intro slot hslot
    obtain ⟨i, hi, rfl⟩ := List.mem_map.1 hslot
    exact hall i (List.mem_range.1 hi)
  have := hnodup.length_le_of_subset hsub
  rw [List.length_map, List.length_range] at this
  omega

theorem freeSlot_spec (taken : List String) (key : String) : IsFirstFree taken key (freeSlot taken key) := by
  obtain ⟨i, hi, hfree⟩ := exists_free taken key
  unfold freeSlot
  rw [List.find?_map]
  cases hfind : (List.range (taken.length + 1)).find? ((fun slot => !taken.contains slot) ∘ slotName key) with
  | none =>
    have := List.find?_eq_none.1 hfind i (List.mem_range.2 hi)
    simp [hfree] at this
  | some n =>
    obtain ⟨hn, -, hbefore⟩ := List.find?_range_eq_some.1 hfind
    refine ⟨n, rfl, ?_, fun j hj => ?_⟩
    · simpa using hn
    · simpa using hbefore j hj

end Registrar.Merge
