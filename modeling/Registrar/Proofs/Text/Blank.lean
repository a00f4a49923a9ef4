import Mathlib.Data.List.TakeWhile
import Registrar.Text.Blank

/-!
# Trimmed texts

A text without blanks is its own trimmed form (`trimChars_of_not_blank`), trimming brings no character in
(`mem_of_mem_trimChars`), and nothing is left of a text exactly when it is blank (`trim_eq_empty_iff`).
-/

namespace Registrar.Text

theorem trimChars_of_not_blank {cs : List Char} (h : ∀ c ∈ cs, isBlank c = false) : trimChars cs = cs := by
  have hdrop : ∀ ds : List Char, (∀ c ∈ ds, isBlank c = false) → ds.dropWhile isBlank = ds := by
    intro ds hds
    cases ds with
    | nil => rfl
    | cons c rest => rw [List.dropWhile_cons, hds c List.mem_cons_self, if_neg Bool.false_ne_true]
  rw [trimChars, hdrop cs h, hdrop cs.reverse fun c hc => h c (List.mem_reverse.1 hc), List.reverse_reverse]

theorem mem_of_mem_trimChars {c : Char} {cs : List Char} (h : c ∈ trimChars cs) : c ∈ cs := by
  rw [trimChars, List.mem_reverse] at h
  have hback := List.mem_reverse.1 ((List.dropWhile_sublist _).subset h)
  exact (List.dropWhile_sublist _).subset hback

theorem trimChars_of_isBlankText {s : String} (h : isBlankText s = true) : trimChars s.toList = [] := by
  rw [trimChars, List.dropWhile_eq_nil_iff.2 fun c hc => List.all_eq_true.1 h c hc]
  rfl

theorem trim_eq_empty_iff {s : String} : trim s = "" ↔ isBlankText s = true := by
  rw [← String.toList_inj, toList_trim, String.toList_empty]
  refine ⟨fun h => ?_, trimChars_of_isBlankText⟩
  rw [trimChars, List.reverse_eq_nil_iff, List.dropWhile_eq_nil_iff] at h
  rw [isBlankText, List.all_eq_true, ← List.dropWhile_eq_nil_iff]
  -- what is left at the front starts with no blank, so it is empty
  cases hrest : s.toList.dropWhile isBlank with
  | nil => rfl
  | cons c rest =>
    have hhead := List.head?_dropWhile_not isBlank s.toList
    rw [hrest] at h hhead
    have hblank := h c (List.mem_reverse.2 List.mem_cons_self)
    rw [hhead] at hblank
    cases hblank

end Registrar.Text
