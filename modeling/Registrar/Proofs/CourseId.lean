import Mathlib.Data.List.TakeWhile
import Registrar.CourseId
import Registrar.Proofs.Text.Split

/-!
# Course IDs with suffixes, and keys of a course and a person

An ID without a suffix and the suffix that it gets can be told apart (`append_suffix_inj`), and so can the course and
the person of a key where campus IDs have no `-` (`pairKey_inj`). The term of an ID ends at the last `-`
(`isOfTerm_iff`). A suffix without `-` leaves the term and the control number of an ID as they are
(`split?_append_suffix`), and one that the grammar admits makes an ID that fits it of one that does
(`isWellFormed_append_suffix`).
-/

namespace Registrar.CourseId

theorem hasSuffix_eq_false_iff {s : String} : hasSuffix s = false ↔ '_' ∉ s.toList := by
  rw [hasSuffix, ← Bool.not_eq_true, List.contains_iff_mem]

theorem toList_append_suffix (id suffix : String) :
    (id ++ "_" ++ suffix).toList = id.toList ++ '_' :: suffix.toList := by
  rw [String.toList_append, String.toList_append, List.append_assoc]
  rfl

theorem toList_pairKey (course uid : String) : (pairKey course uid).toList = course.toList ++ '-' :: uid.toList := by
  rw [pairKey, String.toList_append, String.toList_append, List.append_assoc]
  rfl

theorem hasSuffix_append (id suffix : String) : hasSuffix (id ++ "_" ++ suffix) = true := by
  rw [hasSuffix, toList_append_suffix, List.contains_iff_mem]
  exact List.mem_append_right _ List.mem_cons_self

theorem append_suffix_inj {id id' suffix suffix' : String} (h : hasSuffix id = false) (h' : hasSuffix id' = false)
    (heq : id ++ "_" ++ suffix = id' ++ "_" ++ suffix') : id = id' ∧ suffix = suffix' := by
  have hparts := congrArg String.toList heq
  rw [toList_append_suffix, toList_append_suffix] at hparts
  obtain ⟨hid, hsuffix⟩ := Text.append_sep_inj (hasSuffix_eq_false_iff.1 h) (hasSuffix_eq_false_iff.1 h') hparts
  exact ⟨String.toList_inj.1 hid, String.toList_inj.1 hsuffix⟩

/-! ## Terms -/

/-- An ID of a course of a term: the term stands before the last `-`. -/
def NamesTerm (term id : String) : Prop := ∃ part : String, '-' ∉ part.toList ∧ id = term ++ "-" ++ part

theorem isOfTerm_iff {term id : String} : isOfTerm term id = true ↔ NamesTerm term id := by
  have htoList : ∀ part : String, (term ++ "-" ++ part).toList = term.toList ++ '-' :: part.toList :=
    toList_pairKey term
  simp only [isOfTerm, split?, Option.any_map, Option.any_eq_true, NamesTerm]
  constructor
  · rintro ⟨⟨front, part⟩, hcut, hfront⟩
    obtain ⟨hid, hpart⟩ := Text.cutLast_eq_some_iff.1 hcut
    refine ⟨String.ofList part, by rwa [String.toList_ofList], String.toList_inj.1 ?_⟩
    rw [hid, htoList, String.toList_ofList, ← of_decide_eq_true hfront, String.toList_ofList]
  · rintro ⟨part, hpart, rfl⟩
    refine ⟨(term.toList, part.toList), Text.cutLast_eq_some_iff.2 ⟨htoList part, hpart⟩, ?_⟩
    exact decide_eq_true String.ofList_toList

/-! ## Suffixes and the parts of an ID -/

/-- The control number ends at the first `_`, so a suffix is no part of it. -/
theorem split?_append_suffix {suffix : String} (h : '-' ∉ suffix.toList) (id : String) :
    split? (id ++ "_" ++ suffix) = split? id := by
  have hback : '-' ∉ '_' :: suffix.toList := fun hmem => (List.mem_cons.1 hmem).elim (by decide) h
  have hnumber : ∀ rest : List Char,
      (rest ++ '_' :: suffix.toList).takeWhile (· ≠ '_') = rest.takeWhile (· ≠ '_') := by
    intro rest
    rw [List.takeWhile_append]
    split
    · rename_i hlength
      rw [List.takeWhile_cons_of_neg (by decide), List.append_nil]
      exact ((List.takeWhile_prefix _).eq_of_length hlength).symm
    · rfl
  rw [split?, toList_append_suffix, Text.cutLast_append hback, Option.map_map, split?]
  congr 1
  funext ⟨term, rest⟩
  show (String.ofList term, String.ofList ((rest ++ '_' :: suffix.toList).takeWhile _)) = _
  rw [hnumber]

/-- Without a suffix a section is a control number. -/
theorem isSection_iff_of_plain {cs : List Char} (h : '_' ∉ cs) :
    isSection cs = true ↔ cs ≠ [] ∧ ∀ c ∈ cs, Text.isDecimal c = true := by
  rw [isSection, Bool.and_eq_true]
  constructor
  · rintro ⟨hnumber, hrest⟩
    have hall : cs.dropWhile Text.isDecimal = [] := by
      cases hdrop : cs.dropWhile Text.isDecimal with
      | nil => rfl
      | cons mark suffix =>
        -- what follows the number starts with the mark of a suffix
        rw [hdrop] at hrest
        simp only [Bool.and_eq_true, decide_eq_true_eq] at hrest
        obtain ⟨⟨rfl, -⟩, -⟩ := hrest
        exact absurd ((List.dropWhile_sublist _).subset (hdrop ▸ List.mem_cons_self)) h
    refine ⟨?_, List.dropWhile_eq_nil_iff.1 hall⟩
    rintro rfl
    cases hnumber
  · rintro ⟨hne, hall⟩
    rw [List.takeWhile_eq_self_iff.2 hall, List.dropWhile_eq_nil_iff.2 hall]
    exact ⟨by simpa using hne, rfl⟩

theorem isSection_append_suffix {cs suffix : List Char} (h : '_' ∉ cs) (hne : suffix ≠ [])
    (hchars : ∀ c ∈ suffix, isSuffixChar c = true) (hcs : isSection cs = true) :
    isSection (cs ++ '_' :: suffix) = true := by
  obtain ⟨hnumber, hall⟩ := (isSection_iff_of_plain h).1 hcs
  rw [isSection, List.takeWhile_append_of_pos hall, List.dropWhile_append_of_pos hall,
    List.takeWhile_cons_of_neg (by decide), List.dropWhile_cons_of_neg (by decide), List.append_nil]
  simpa [hnumber, hne] using hchars

/-- An ID without a suffix that fits the grammar fits it with a suffix of capitals and digits. -/
theorem isWellFormed_append_suffix {id suffix : String} (h : hasSuffix id = false) (hne : suffix.toList ≠ [])
    (hchars : ∀ c ∈ suffix.toList, isSuffixChar c = true) (hid : isWellFormed id = true) :
    isWellFormed (id ++ "_" ++ suffix) = true := by
  have hplain := hasSuffix_eq_false_iff.1 h
  unfold isWellFormed at hid ⊢
  rw [toList_append_suffix]
  split at hid
  · rename_i a b c d term rest heq
    rw [heq] at hplain ⊢
    rw [Bool.and_eq_true] at hid
    have hrest : '_' ∉ rest := fun hmem => hplain (by simp [hmem])
    show ([a, b, c, d].all Text.isDecimal && Text.isAsciiUpper term && isSection (rest ++ '_' :: suffix.toList)) = true
    rw [hid.1, isSection_append_suffix hrest hne hchars hid.2]
    rfl
  · cases hid

/-! ## Keys -/

/-- The last `-` of a key parts course and person. -/
theorem pairKey_inj {course course' uid uid' : String} (h : '-' ∉ uid.toList) (h' : '-' ∉ uid'.toList)
    (heq : pairKey course uid = pairKey course' uid') : course = course' ∧ uid = uid' := by
  have hparts := congrArg String.toList heq
  rw [toList_pairKey, toList_pairKey] at hparts
  obtain ⟨hcourse, huid⟩ := Text.append_sep_inj_last h h' hparts
  exact ⟨String.toList_inj.1 hcourse, String.toList_inj.1 huid⟩

end Registrar.CourseId
