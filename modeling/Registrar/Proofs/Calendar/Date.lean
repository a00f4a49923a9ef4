import Registrar.Proofs.Calendar.DayNumber
import Registrar.Proofs.Calendar.Spelling

/-!
# Dates as texts

The written form of a date in a year of four digits is one of its spellings (`spells_text`), so it is read as the date
itself (`parse?_text`). So the normal form of a text that names a date names the same date (`normalize?_normalize?`),
and two texts have one normal form exactly when they are read as the same date (`normalize?_eq_normalize?_iff`). Two
such dates with one stamp are the same (`stamp_injective`), stamps are in the order of the days (`stamp_lt_stamp_iff`),
and a stamp is made of digits (`isAsciiDigit_of_mem_stamp`).
-/

namespace Registrar

namespace Date

open Text

variable {s s' : String} {d d' : Date}

/-! ## Reading and writing dates -/

theorem toList_text (hy : 0 ≤ d.year ∧ d.year ≤ 9999) :
    d.text.toList = (padded 2 d.month).toList ++ '-' :: ((padded 2 d.day).toList ++ '-' ::
      (padded 4 d.year.toNat).toList) := by
  rw [text, yearText, if_pos hy]
  simp [String.toList_append]

/-- Month and day have two digits at most. -/
theorem month_day_lt (d : Date) : d.month < 10 ^ 2 ∧ d.day < 10 ^ 2 := by
  have hle : daysInMonth d.year d.month ≤ 31 := by
    unfold daysInMonth
    split <;> (try split) <;> decide
  have := d.month_valid
  have := d.day_valid
  omega

theorem denotes_padded {width n : Nat} (h : n < 10 ^ width) : Denotes (padded width n).toList n where
  digits := fun _ => isAsciiDigit_of_mem_padded
  value := readNat_padded h

/-- The written form of a date in a year of four digits spells the date. -/
theorem spells_text (hy : 0 ≤ d.year ∧ d.year ≤ 9999) : Spells d.text.toList d := by
  obtain ⟨hmonth, hday⟩ := month_day_lt d
  have hyear : d.year.toNat < 10 ^ 4 := by omega
  exact ⟨_, _, _, '-', '-', toList_text hy, .inr rfl, .inr rfl, .inr (length_padded _ _), .inr (length_padded _ _),
    length_padded _ _, denotes_padded hmonth, denotes_padded hday, _, denotes_padded hyear,
    (Int.toNat_of_nonneg hy.1).symm⟩

/-- The written form of a date in a year of four digits is read as the date. -/
theorem parse?_text (hy : 0 ≤ d.year ∧ d.year ≤ 9999) : parse? d.text = some d :=
  parse?_of_spells_toList (spells_text hy)

theorem normalize?_of_parse? (h : parse? s = some d) : normalize? s = some d.text := by
  rw [normalize?, h, Option.map_some]

/-- Texts have the same normal form exactly when they are read as the same date. -/
theorem normalize?_eq_normalize?_iff (h : parse? s = some d) (h' : parse? s' = some d') :
    normalize? s = normalize? s' ↔ d = d' := by
  rw [normalize?_of_parse? h, normalize?_of_parse? h']
  refine ⟨fun htext => ?_, fun hd => by rw [hd]⟩
  have hread := parse?_text (year_of_parse? h)
  rw [Option.some.inj htext, parse?_text (year_of_parse? h')] at hread
  exact (Option.some.inj hread).symm

/-- The normal form of a text is its own normal form. -/
theorem normalize?_normalize? {t : String} (h : normalize? s = some t) : normalize? t = some t := by
  obtain ⟨d, hd, rfl⟩ := Option.map_eq_some_iff.1 h
  exact normalize?_of_parse? (parse?_text (year_of_parse? hd))

/-- A normal form starts with a digit. -/
theorem head?_of_normalize? {t : String} (h : normalize? s = some t) :
    ∃ c cs, t.toList = c :: cs ∧ isAsciiDigit c = true := by
  obtain ⟨d, hd, rfl⟩ := Option.map_eq_some_iff.1 h
  have hlength := length_padded 2 d.month
  rw [toList_text (year_of_parse? hd)]
  cases hcs : (padded 2 d.month).toList with
  | nil => rw [hcs] at hlength; cases hlength
  | cons c cs => exact ⟨c, _, rfl, isAsciiDigit_of_mem_padded (hcs ▸ List.mem_cons_self)⟩

/-! ## Stamps -/

theorem toList_stamp (hy : 0 ≤ d.year ∧ d.year ≤ 9999) :
    d.stamp.toList = (padded 4 d.year.toNat).toList ++ ((padded 2 d.month).toList ++ (padded 2 d.day).toList) := by
  rw [stamp, yearText, if_pos hy, String.toList_append, String.toList_append, List.append_assoc]

theorem length_stamp (hy : 0 ≤ d.year ∧ d.year ≤ 9999) : d.stamp.toList.length = 8 := by
  rw [toList_stamp hy, List.length_append, List.length_append, length_padded, length_padded, length_padded]

theorem isAsciiDigit_of_mem_stamp (hy : 0 ≤ d.year ∧ d.year ≤ 9999) {c : Char} (h : c ∈ d.stamp.toList) :
    isAsciiDigit c = true := by
  rw [toList_stamp hy, List.mem_append, List.mem_append] at h
  rcases h with h | h | h <;> exact isAsciiDigit_of_mem_padded h

/-- The stamp determines a date in a year of four digits. -/
theorem stamp_injective (hy : 0 ≤ d.year ∧ d.year ≤ 9999) (hy' : 0 ≤ d'.year ∧ d'.year ≤ 9999)
    (h : d.stamp = d'.stamp) : d = d' := by
  have hparts := congrArg String.toList h
  rw [toList_stamp hy, toList_stamp hy'] at hparts
  -- the parts have fixed widths
  obtain ⟨hyears, hrest⟩ := List.append_inj hparts (by rw [length_padded, length_padded])
  obtain ⟨hmonths, hdays⟩ := List.append_inj hrest (by rw [length_padded, length_padded])
  obtain ⟨hm, hd⟩ := month_day_lt d
  obtain ⟨hm', hd'⟩ := month_day_lt d'
  have hyear : d.year.toNat = d'.year.toNat := padded_injective (by omega) (by omega) (String.toList_inj.1 hyears)
  have hmonth : d.month = d'.month := padded_injective hm hm' (String.toList_inj.1 hmonths)
  have hday : d.day = d'.day := padded_injective hd hd' (String.toList_inj.1 hdays)
  have hof : of? d'.year d'.month d'.day = some d := of?_eq_some_iff.2 ⟨by omega, hmonth, hday⟩
  exact Option.some.inj (hof.symm.trans (of?_eq_some_iff.2 ⟨rfl, rfl, rfl⟩))

/-- Stamps are in the order of the days. -/
theorem stamp_lt_stamp_iff (hy : 0 ≤ d.year ∧ d.year ≤ 9999) (hy' : 0 ≤ d'.year ∧ d'.year ≤ 9999) :
    d.stamp < d'.stamp ↔ d.number < d'.number := by
  obtain ⟨hm, hd⟩ := month_day_lt d
  obtain ⟨hm', hd'⟩ := month_day_lt d'
  show d.stamp.toList < d'.stamp.toList ↔ _
  rw [toList_stamp hy, toList_stamp hy', padded_append_lt_iff (by omega) (by omega), padded_append_lt_iff hm hm',
    padded_lt_padded_iff hd hd', number_lt_number_iff]
  omega

/-- **Dates and their texts.** A text is read as a date exactly when its trimmed form spells the date. The written form
of a date in a year of four digits is read as that date, so a normal form is its own, and texts that are read have the
same one exactly when they are read as the same date. Stamps of such dates determine them and are in their order. -/
theorem dates_and_texts :
    (∀ s d, parse? s = some d ↔ Spells (trim s).toList d) ∧
    (∀ d : Date, 0 ≤ d.year ∧ d.year ≤ 9999 → parse? d.text = some d) ∧
    (∀ s t, normalize? s = some t → normalize? t = some t) ∧
    (∀ s s' d d', parse? s = some d → parse? s' = some d' → (normalize? s = normalize? s' ↔ d = d')) ∧
    ∀ d d' : Date, 0 ≤ d.year ∧ d.year ≤ 9999 → 0 ≤ d'.year ∧ d'.year ≤ 9999 →
      (d.stamp = d'.stamp ↔ d = d') ∧ (d.stamp < d'.stamp ↔ d.number < d'.number) :=
  ⟨fun _ _ => parse?_eq_some_iff, fun _ hy => parse?_text hy, fun _ _ => normalize?_normalize?,
    fun _ _ _ _ => normalize?_eq_normalize?_iff,
    fun _ _ hy hy' => ⟨⟨stamp_injective hy hy', fun h => h ▸ rfl⟩, stamp_lt_stamp_iff hy hy'⟩⟩

/-- The first and the last day of February in year 0, the one spelled in three ways. -/
theorem dates_and_texts_leapDay :
    let first : Date := ⟨0, 2, 1, by decide, by decide⟩
    let last : Date := ⟨0, 2, 29, by decide, by decide⟩
    (0 ≤ first.year ∧ first.year ≤ 9999) ∧ (0 ≤ last.year ∧ last.year ≤ 9999) ∧ parse? last.text = some last ∧
      parse? "\u2003 2/29-0000\n" = some last ∧ parse? "02-1/0000" = some first ∧
      normalize? "\u2003 2/29-0000\n" = some "02-29-0000" ∧ normalize? "02-29-0000" = some "02-29-0000" ∧
      (normalize? "\u2003 2/29-0000\n" = normalize? "02-1/0000" ↔ last = first) ∧
      (last.stamp = first.stamp ↔ last = first) ∧ (first.stamp < last.stamp ↔ first.number < last.number) := by
  intro first last
  obtain ⟨-, hwritten, hnormal, hsame, hstamp⟩ := dates_and_texts
  have hfirst : 0 ≤ first.year ∧ first.year ≤ 9999 := by decide
  have hlast : 0 ≤ last.year ∧ last.year ≤ 9999 := by decide
  have hread : parse? "\u2003 2/29-0000\n" = some last := by decide +kernel
  have hread' : parse? "02-1/0000" = some first := by decide +kernel
  have hform : normalize? "\u2003 2/29-0000\n" = some "02-29-0000" := by decide +kernel
  exact ⟨hfirst, hlast, hwritten last hlast, hread, hread', hform, hnormal _ _ hform, hsame _ _ _ _ hread hread',
    (hstamp last first hlast hfirst).1, (hstamp first last hfirst hlast).2⟩

end Date

end Registrar
