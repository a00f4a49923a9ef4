import Registrar.Calendar.Date
import Registrar.Proofs.Text.Blank
import Registrar.Proofs.Text.Number
import Registrar.Proofs.Text.Split

/-!
# How dates are spelled

A text *spells* a date when it is made of the digits of the month, the day and the year with a slash or a dash between
them: one or two digits for month and day, four for the year (`Spells`). A text is read as a date exactly when it spells
the date once the blanks around it are gone (`parse?_eq_some_iff`). So a blank text is read as none
(`parse?_of_isBlankText`), and a date that is read lies in a year of four digits (`year_of_parse?`).
-/

namespace Registrar.Date

open Text

variable {cs : List Char} {c : Char} {s : String} {d : Date}

theorem of?_eq_some_iff {year : Int} {month day : Nat} :
    of? year month day = some d ↔ d.year = year ∧ d.month = month ∧ d.day = day := by
  unfold of?
  constructor
  · intro h
    split at h
    · cases h
      exact ⟨rfl, rfl, rfl⟩
    · cases h
  · rintro ⟨rfl, rfl, rfl⟩
    rw [dif_pos ⟨d.month_valid, d.day_valid⟩]

/-! ## Spelling -/

/-- A character that stands between the parts of a date. -/
def IsSeparator (c : Char) : Prop := c = '/' ∨ c = '-'

/-- Digits `0` to `9` that form a number. -/
structure Denotes (cs : List Char) (n : Nat) : Prop where
  digits : ∀ c ∈ cs, isAsciiDigit c = true
  value : Nat.ofDigitChars 10 cs 0 = n

/-- Month and day in one or two digits each and the year in four, with separators of either kind between them. -/
def Spells (cs : List Char) (d : Date) : Prop :=
  ∃ month day year sep sep', cs = month ++ sep :: (day ++ sep' :: year) ∧ IsSeparator sep ∧ IsSeparator sep' ∧
    (month.length = 1 ∨ month.length = 2) ∧ (day.length = 1 ∨ day.length = 2) ∧ year.length = 4 ∧
    Denotes month d.month ∧ Denotes day d.day ∧ ∃ y : Nat, Denotes year y ∧ d.year = y

/-! ## Separators -/

theorem not_blank_of_isSeparator (h : IsSeparator c) : isBlank c = false := by
  rcases h with rfl | rfl <;> decide

theorem dashed_of_isSeparator (h : IsSeparator c) : (if c = '/' then '-' else c) = '-' := by
  rcases h with rfl | rfl <;> rfl

theorem isSeparator_of_dashed (h : (if c = '/' then '-' else c) = '-') : IsSeparator c := by
  split at h
  · exact .inl ‹_›
  · exact .inr h

/-- Among digits there is no slash to become a dash. -/
theorem map_dashed_of_digits (h : ∀ c ∈ cs, isAsciiDigit c = true) :
    (cs.map fun c => if c = '/' then '-' else c) = cs := by
  refine (List.map_congr_left (g := id) fun c hc => if_neg ?_).trans (List.map_id _)
  rintro rfl
  exact nomatch h '/' hc

/-- What became digits were the same digits before. -/
theorem eq_of_map_dashed {ds : List Char} (hmap : (cs.map fun c => if c = '/' then '-' else c) = ds)
    (h : ∀ c ∈ ds, isAsciiDigit c = true) : cs = ds := by
  subst hmap
  refine (map_dashed_of_digits fun c hc => ?_).symm
  have hdigit := h _ (List.mem_map_of_mem hc)
  split at hdigit
  · cases hdigit
  · exact hdigit

theorem not_mem_digits (h : ∀ c ∈ cs, isAsciiDigit c = true) : '-' ∉ cs := fun hc => nomatch h '-' hc

/-- A spelling has no blanks. -/
theorem Spells.not_blank (h : Spells cs d) : ∀ c ∈ cs, isBlank c = false := by
  obtain ⟨month, day, year, sep, sep', rfl, hsep, hsep', -, -, -, hm, hd, y, hy, -⟩ := h
  intro c hc
  rw [List.mem_append, List.mem_cons, List.mem_append, List.mem_cons] at hc
  rcases hc with hc | rfl | hc | rfl | hc
  · exact isBlank_of_isAsciiDigit (hm.digits c hc)
  · exact not_blank_of_isSeparator hsep
  · exact isBlank_of_isAsciiDigit (hd.digits c hc)
  · exact not_blank_of_isSeparator hsep'
  · exact isBlank_of_isAsciiDigit (hy.digits c hc)

/-! ## Reading -/

theorem spells_of_parse? (h : parse? s = some d) : Spells (trim s).toList d := by
  unfold parse? at h
  dsimp only at h
  split at h
  · rename_i month day year hsplit
    split at h
    · rename_i hform
      obtain ⟨hmonth, hday, hyear, hdigits⟩ := hform
      rw [List.all_eq_true] at hdigits
      obtain ⟨hy, hm, hd⟩ := of?_eq_some_iff.1 h
      -- the pieces joined by dashes are the text, its slashes made dashes
      have hjoin := joinWith_splitAt '-' ((trimChars s.toList).map fun c => if c = '/' then '-' else c)
      rw [hsplit] at hjoin
      have hparts : ((trimChars s.toList).map fun c => if c = '/' then '-' else c) =
          month ++ '-' :: (day ++ '-' :: year) := by
        rw [← hjoin]
        simp [joinWith]
      obtain ⟨month', rest, hcs, hmonth', hrest⟩ := List.map_eq_append_iff.1 hparts
      obtain ⟨sep, rest', rfl, hsep, hrest'⟩ := List.map_eq_cons_iff.1 hrest
      obtain ⟨day', rest'', rfl, hday', hrest''⟩ := List.map_eq_append_iff.1 hrest'
      obtain ⟨sep', year', rfl, hsep', hyear'⟩ := List.map_eq_cons_iff.1 hrest''
      have hmonths : ∀ c ∈ month, isAsciiDigit c = true := fun c hc => hdigits c (by simp [hc])
      have hdays : ∀ c ∈ day, isAsciiDigit c = true := fun c hc => hdigits c (by simp [hc])
      have hyears : ∀ c ∈ year, isAsciiDigit c = true := fun c hc => hdigits c (by simp [hc])
      obtain rfl := eq_of_map_dashed hmonth' hmonths
      obtain rfl := eq_of_map_dashed hday' hdays
      obtain rfl := eq_of_map_dashed hyear' hyears
      rw [toList_trim]
      exact ⟨_, _, _, _, _, hcs, isSeparator_of_dashed hsep, isSeparator_of_dashed hsep', hmonth, hday, hyear,
        ⟨hmonths, hm.symm⟩, ⟨hdays, hd.symm⟩, _, ⟨hyears, rfl⟩, hy⟩
    · cases h
  · cases h

theorem parse?_of_spells (h : Spells (trim s).toList d) : parse? s = some d := by
  rw [toList_trim] at h
  obtain ⟨month, day, year, sep, sep', hcs, hsep, hsep', hmonth, hday, hyear, hm, hd, y, hy, hdy⟩ := h
  have hdashed : ((trimChars s.toList).map fun c => if c = '/' then '-' else c) =
      month ++ '-' :: (day ++ '-' :: year) := by
    rw [hcs, List.map_append, List.map_cons, List.map_append, List.map_cons, map_dashed_of_digits hm.digits,
      map_dashed_of_digits hd.digits, map_dashed_of_digits hy.digits, dashed_of_isSeparator hsep,
      dashed_of_isSeparator hsep']
  have hdigits : (month ++ day ++ year).all isAsciiDigit = true := by
    rw [List.all_eq_true]
    intro c hc
    rw [List.mem_append, List.mem_append] at hc
    rcases hc with (hc | hc) | hc
    · exact hm.digits c hc
    · exact hd.digits c hc
    · exact hy.digits c hc
  unfold parse?
  dsimp only
  rw [hdashed, splitAt_append (not_mem_digits hm.digits), splitAt_append (not_mem_digits hd.digits),
    splitAt_of_not_mem (not_mem_digits hy.digits)]
  dsimp only
  rw [if_pos ⟨hmonth, hday, hyear, hdigits⟩]
  have hyvalue : readNat year = y := hy.value
  exact of?_eq_some_iff.2 ⟨by rw [hyvalue, hdy], hm.value.symm, hd.value.symm⟩

/-- A text is read as the date that it spells, blanks around it apart. -/
theorem parse?_eq_some_iff : parse? s = some d ↔ Spells (trim s).toList d := ⟨spells_of_parse?, parse?_of_spells⟩

theorem parse?_of_isBlankText (h : isBlankText s = true) : parse? s = none := by
  rw [parse?, trimChars_of_isBlankText h]
  rfl

/-- A spelling is read as the date that it spells. -/
theorem parse?_of_spells_toList (h : Spells s.toList d) : parse? s = some d := by
  refine parse?_of_spells ?_
  rw [toList_trim, trimChars_of_not_blank h.not_blank]
  exact h

/-- A year that is read has four digits. -/
theorem year_of_parse? (h : parse? s = some d) : 0 ≤ d.year ∧ d.year ≤ 9999 := by
  obtain ⟨month, day, year, sep, sep', -, -, -, -, -, hlength, -, -, y, hy, hyear⟩ := spells_of_parse? h
  have hlt : readNat year < 10 ^ year.length := readNat_lt hy.digits
  have hvalue : readNat year = y := hy.value
  rw [hvalue, hlength] at hlt
  omega

end Registrar.Date
