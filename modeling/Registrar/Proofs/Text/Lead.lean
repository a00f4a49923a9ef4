import Mathlib.Algebra.Order.BigOperators.Group.List
import Mathlib.Algebra.Order.Group.Nat
import Registrar.Text.Digit
import Registrar.Text.Split

/-!
# Leads and numerals

Taking a lead off a text succeeds exactly on the texts that start with it (`stripLead?_eq_some_iff`). A numeral has
digits only, so no lead whose first character is not a digit can be taken off it (`stripLead?_of_isNumeral`). There are
numerals of any length, hence always one that is not among given texts (`exists_longer_numeral`).
-/

namespace Registrar.Text

/-! ## Leads -/

theorem dropLead?_eq_some_iff {lead cs rest : List Char} : dropLead? lead cs = some rest ↔ cs = lead ++ rest := by
  unfold dropLead?
  constructor
  · intro h
    split at h
    · rename_i hp
      obtain ⟨t, rfl⟩ := List.isPrefixOf_iff_prefix.1 hp
      rw [List.drop_left] at h
      rw [Option.some.inj h]
    · cases h
  · rintro rfl
    rw [if_pos (List.isPrefixOf_iff_prefix.2 (List.prefix_append lead rest)), List.drop_left]

theorem stripLead?_eq_some_iff {lead s rest : String} : stripLead? lead s = some rest ↔ s = lead ++ rest := by
  simp only [stripLead?, Option.map_eq_some_iff, dropLead?_eq_some_iff]
  constructor
  · rintro ⟨cs, hs, rfl⟩
    rw [← String.toList_inj, hs, String.toList_append, String.toList_ofList]
  · rintro rfl
    exact ⟨rest.toList, String.toList_append, String.ofList_toList⟩

theorem stripLead?_append (lead rest : String) : stripLead? lead (lead ++ rest) = some rest :=
  stripLead?_eq_some_iff.2 rfl

/-! ## Numerals -/

theorem isNumeral_iff {s : String} : isNumeral s = true ↔ s.toList ≠ [] ∧ ∀ c ∈ s.toList, isAsciiDigit c = true := by
  simp [isNumeral]

theorem not_isNumeral_of_head? {s : String} (h : s.toList.head?.all isAsciiDigit = false) : isNumeral s = false := by
  rw [Bool.eq_false_iff]
  intro hs
  cases hcs : s.toList with
  | nil => rw [hcs] at h; cases h
  | cons c cs =>
    rw [hcs] at h
    have hc := (isNumeral_iff.1 hs).2 c (by rw [hcs]; exact List.mem_cons_self)
    rw [List.head?_cons, Option.all_some, hc] at h
    cases h

/-- A text is no numeral when it starts with what starts with another character than a digit. -/
theorem not_isNumeral_append {lead : String} (h : lead.toList.head?.all isAsciiDigit = false) (rest : String) :
    isNumeral (lead ++ rest) = false := by
  apply not_isNumeral_of_head?
  rw [String.toList_append]
  cases hcs : lead.toList with
  | nil => rw [hcs] at h; cases h
  | cons c cs => rw [hcs] at h; exact h

theorem stripLead?_of_isNumeral {lead s : String} (h : lead.toList.head?.all isAsciiDigit = false)
    (hs : isNumeral s = true) : stripLead? lead s = none := by
  cases hr : stripLead? lead s with
  | none => rfl
  | some rest =>
    rw [stripLead?_eq_some_iff.1 hr, not_isNumeral_append h] at hs
    cases hs

/-- There are numerals longer than any given texts. -/
theorem exists_longer_numeral (l : List String) : ∃ s, isNumeral s = true ∧ ∀ t ∈ l, t.length < s.length := by
  let s := String.ofList (List.replicate ((l.map String.length).sum + 1) '0')
  have hs : s.toList = List.replicate ((l.map String.length).sum + 1) '0' := String.toList_ofList
  refine ⟨s, isNumeral_iff.2 ⟨?_, fun c hc => ?_⟩, fun t ht => ?_⟩
  · simp [hs]
  · rw [hs] at hc
    rw [List.eq_of_mem_replicate hc]
    rfl
  · have hlength : s.length = (l.map String.length).sum + 1 := by rw [← String.length_toList, hs, List.length_replicate]
    have hle : t.length ≤ (l.map String.length).sum := List.le_sum_of_mem (List.mem_map_of_mem ht)
    omega

end Registrar.Text
