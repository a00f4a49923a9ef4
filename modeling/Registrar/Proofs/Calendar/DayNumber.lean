import Registrar.Calendar.Date

/-!
# The numbers of days

The number of a date counts days: the day after has the next number (`number_next`). So distances between days are
differences of numbers. The numbers of the days of a year lie between those of its first day and of the next year's
(`daysBeforeYear_le_number`, `number_lt_daysBeforeYear`). So days are in the order of year, month and day
(`number_lt_number_iff`), and the days that the calendar reaches are those whose years it reaches
(`inCalendar_iff_number`).
-/

namespace Registrar.Date

variable {year : Int} {month month' : Nat} {d d' : Date}

/-! ## Days before a month and before a year -/

theorem daysBeforeMonth_succ (year : Int) (hmonth : 1 ≤ month) :
    daysBeforeMonth year (month + 1) = daysBeforeMonth year month + daysInMonth year month := by
  have hfoldr : ∀ (l : List Nat) (n : Nat), l.foldr (· + ·) n = l.foldr (· + ·) 0 + n := by
    intro l n
    induction l with
    | nil => exact (Nat.zero_add n).symm
    | cons a rest ih => rw [List.foldr_cons, List.foldr_cons, ih, Nat.add_assoc]
  obtain ⟨m, rfl⟩ : ∃ m, month = m + 1 := ⟨month - 1, by omega⟩
  simp only [daysBeforeMonth, Nat.add_sub_cancel, List.range_succ, List.map_append, List.foldr_append, List.map_cons,
    List.map_nil, List.foldr_cons, List.foldr_nil, Nat.add_zero]
  exact hfoldr _ _

/-- The first of a month comes no later than the first of a later month. -/
theorem daysBeforeMonth_le (year : Int) (hmonth : 1 ≤ month) (hle : month ≤ month') :
    daysBeforeMonth year month ≤ daysBeforeMonth year month' := by
  obtain ⟨left, rfl⟩ := Nat.exists_eq_add_of_le hle
  induction left with
  | zero => exact Nat.le_refl _
  | succ left ih =>
    have hpositive : 1 ≤ month + left := by omega
    have := daysBeforeMonth_succ year hpositive
    have := ih (Nat.le_add_right month left)
    rw [← Nat.add_assoc]
    omega

/-- The months of a year fill it. -/
theorem daysBeforeYear_succ (year : Int) :
    daysBeforeYear (year + 1) = daysBeforeYear year + daysBeforeMonth year 13 := by
  have hmonths : daysBeforeMonth year 13 = 337 + daysInMonth year 2 := by
    simp only [daysBeforeMonth, daysInMonth, List.range, List.range.loop, List.map, List.foldr]
    omega
  rw [hmonths]
  have hiff : isLeapYear year = true ↔ year % 4 = 0 ∧ (year % 100 ≠ 0 ∨ year % 400 = 0) := by
    rw [isLeapYear, Bool.and_eq_true, Bool.or_eq_true, decide_eq_true_iff, decide_eq_true_iff, decide_eq_true_iff]
  by_cases hleap : isLeapYear year = true
  · rw [show daysInMonth year 2 = 29 from if_pos hleap]
    rw [hiff] at hleap
    unfold daysBeforeYear
    omega
  · rw [show daysInMonth year 2 = 28 from if_neg hleap]
    rw [hiff] at hleap
    unfold daysBeforeYear
    omega

theorem daysBeforeYear_le {year' : Int} (h : year ≤ year') : daysBeforeYear year ≤ daysBeforeYear year' := by
  unfold daysBeforeYear
  omega

/-! ## Numbers of days -/

theorem daysBeforeYear_le_number (d : Date) : daysBeforeYear d.year ≤ d.number := by
  have := d.day_valid
  unfold number
  omega

theorem number_lt_daysBeforeYear (d : Date) : d.number < daysBeforeYear (d.year + 1) := by
  have hmonth := daysBeforeMonth_succ d.year d.month_valid.1
  have hlast : d.month + 1 ≤ 13 := by
    have := d.month_valid
    omega
  have hyear := daysBeforeMonth_le d.year (Nat.le_add_left 1 d.month) hlast
  have := d.day_valid
  rw [daysBeforeYear_succ]
  unfold number
  omega

/-- The day after has the next number. -/
theorem number_next (d : Date) : d.next.number = d.number + 1 := by
  have hday := d.day_valid
  have hmonth := d.month_valid
  unfold next
  split
  · simp only [number]
    omega
  · split
    · have := daysBeforeMonth_succ d.year hmonth.1
      simp only [number]
      omega
    · have htwelve : d.month + 1 = 13 := by omega
      have hlast := daysBeforeMonth_succ d.year hmonth.1
      rw [htwelve] at hlast
      have := daysBeforeYear_succ d.year
      have hfirst : daysBeforeMonth (d.year + 1) 1 = 0 := rfl
      simp only [number, hfirst]
      omega

/-! ## Days in order -/

theorem number_lt_of_year_lt (h : d.year < d'.year) : d.number < d'.number := by
  have hend := number_lt_daysBeforeYear d
  have hyears := daysBeforeYear_le (Int.add_one_le_of_lt h)
  have hstart := daysBeforeYear_le_number d'
  omega

theorem number_lt_of_month_lt (hyear : d.year = d'.year) (h : d.month < d'.month) : d.number < d'.number := by
  have hmonth := daysBeforeMonth_succ d.year d.month_valid.1
  have hmonths := daysBeforeMonth_le d.year (Nat.le_add_left 1 d.month) h
  have hday := d.day_valid
  have hday' := d'.day_valid
  unfold number
  rw [← hyear]
  omega

theorem number_lt_of_day_lt (hyear : d.year = d'.year) (hmonth : d.month = d'.month) (h : d.day < d'.day) :
    d.number < d'.number := by
  unfold number
  rw [hyear, hmonth]
  omega

/-- Days come in the order of their years, in a year in that of their months, and in a month by themselves. -/
theorem number_lt_number_iff :
    d.number < d'.number ↔
      d.year < d'.year ∨ d.year = d'.year ∧ (d.month < d'.month ∨ d.month = d'.month ∧ d.day < d'.day) := by
  constructor
  · intro h
    -- were it the other way round, the first part that differs would say so
    rcases Int.lt_trichotomy d.year d'.year with hlt | hyear | hgt
    · exact .inl hlt
    · rcases Nat.lt_trichotomy d.month d'.month with hlt | hmonth | hgt
      · exact .inr ⟨hyear, .inl hlt⟩
      · refine .inr ⟨hyear, .inr ⟨hmonth, ?_⟩⟩
        unfold number at h
        rw [hyear, hmonth] at h
        omega
      · have := number_lt_of_month_lt hyear.symm hgt
        omega
    · have := number_lt_of_year_lt hgt
      omega
  · rintro (h | ⟨hyear, h | ⟨hmonth, h⟩⟩)
    · exact number_lt_of_year_lt h
    · exact number_lt_of_month_lt hyear h
    · exact number_lt_of_day_lt hyear hmonth h

/-! ## The reach of the calendar -/

/-- The calendar reaches the date. -/
def InCalendar (d : Date) : Prop := -262143 ≤ d.year ∧ d.year ≤ 262142

instance (d : Date) : Decidable d.InCalendar := inferInstanceAs (Decidable (_ ∧ _))

/-- The calendar reaches all days of the years that it reaches. -/
theorem inCalendar_iff_number : d.InCalendar ↔ firstNumber ≤ d.number ∧ d.number ≤ lastNumber := by
  have hfirst := daysBeforeYear_le_number d
  have hlast := number_lt_daysBeforeYear d
  constructor
  · rintro ⟨hlower, hupper⟩
    have hnext : d.year + 1 ≤ 262143 := by omega
    have := daysBeforeYear_le hlower
    have := daysBeforeYear_le hnext
    unfold firstNumber lastNumber
    omega
  · rintro ⟨hlower, hupper⟩
    unfold firstNumber at hlower
    unfold lastNumber at hupper
    constructor
    · refine Int.not_lt.1 fun hbelow => ?_
      have := daysBeforeYear_le (Int.add_one_le_of_lt hbelow)
      omega
    · refine Int.not_lt.1 fun habove => ?_
      have hfrom : 262143 ≤ d.year := habove
      have := daysBeforeYear_le hfrom
      omega

end Registrar.Date
