import Registrar.Text.Blank
import Registrar.Text.Digit
import Registrar.Text.Split

/-!
# Calendar dates

A `Date` is a day of the proleptic Gregorian calendar. `Date.number` counts days, so that distances are differences of
integers. Dates are read with `/` or `-` between the parts (`Date.parse?`), written `MM-DD-YYYY` (`Date.text`) and
stamped `YYYYMMDD` (`Date.stamp`).
-/

namespace Registrar

/-- Whether a year has 366 days. -/
def isLeapYear (year : Int) : Bool := year % 4 = 0 && (year % 100 ≠ 0 || year % 400 = 0)

/-- The number of days of a month. -/
def daysInMonth (year : Int) (month : Nat) : Nat :=
  match month with
  | 2 => if isLeapYear year then 29 else 28
  | 4 | 6 | 9 | 11 => 30
  | _ => 31

/-- A day of the calendar. -/
structure Date where
  year : Int
  month : Nat
  day : Nat
  month_valid : 1 ≤ month ∧ month ≤ 12
  day_valid : 1 ≤ day ∧ day ≤ daysInMonth year month
  deriving DecidableEq

namespace Date

/-- The date with these parts, if there is one. -/
def of? (year : Int) (month day : Nat) : Option Date :=
  if h : (1 ≤ month ∧ month ≤ 12) ∧ 1 ≤ day ∧ day ≤ daysInMonth year month then some ⟨year, month, day, h.1, h.2⟩
  else none

/-- The days from 1 January of year 0 to 1 January of a year. -/
def daysBeforeYear (year : Int) : Int := 365 * year + (year + 3) / 4 - (year + 99) / 100 + (year + 399) / 400

/-- The days of a year before the first of a month. -/
def daysBeforeMonth (year : Int) (month : Nat) : Nat :=
  ((List.range (month - 1)).map fun i => daysInMonth year (i + 1)).foldr (· + ·) 0

/-- The number of a day, counted from 1 January of year 0. -/
def number (d : Date) : Int := daysBeforeYear d.year + daysBeforeMonth d.year d.month + d.day - 1

/-- The number of the first day that the calendar reaches. -/
def firstNumber : Int := daysBeforeYear (-262143)

/-- The number of the last day that the calendar reaches. -/
def lastNumber : Int := daysBeforeYear 262143 - 1

/-- The number of the day that lies `days` later, if the calendar reaches it. -/
def numberAfter? (d : Date) (days : Int) : Option Int :=
  let n := d.number + days
  if firstNumber ≤ n ∧ n ≤ lastNumber then some n else none

theorem one_le_daysInMonth (year : Int) (month : Nat) : 1 ≤ daysInMonth year month := by
  unfold daysInMonth
  split <;> (try split) <;> decide

/-- The day after. -/
def next (d : Date) : Date :=
  if h : d.day + 1 ≤ daysInMonth d.year d.month then ⟨d.year, d.month, d.day + 1, d.month_valid, by omega, h⟩
  else if h : d.month + 1 ≤ 12 then
    ⟨d.year, d.month + 1, 1, ⟨by omega, h⟩, Nat.le_refl 1, one_le_daysInMonth _ _⟩
  else ⟨d.year + 1, 1, 1, by decide, Nat.le_refl 1, one_le_daysInMonth _ _⟩

/-- The day before. -/
def previous (d : Date) : Date :=
  if h : 2 ≤ d.day then
    ⟨d.year, d.month, d.day - 1, d.month_valid, by omega, by have := d.day_valid; omega⟩
  else if h : 2 ≤ d.month then
    ⟨d.year, d.month - 1, daysInMonth d.year (d.month - 1), by have := d.month_valid; omega,
      one_le_daysInMonth _ _, Nat.le_refl _⟩
  else ⟨d.year - 1, 12, daysInMonth (d.year - 1) 12, by decide, one_le_daysInMonth _ _, Nat.le_refl _⟩

/-- The first day of 1970, from which clocks count. -/
def epoch : Date := ⟨1970, 1, 1, by decide, by decide⟩

/-- A year in four digits, or with its sign when four digits do not hold it. -/
def yearText (year : Int) : String :=
  if 0 ≤ year ∧ year ≤ 9999 then Text.padded 4 year.toNat
  else if year < 0 then "-" ++ wide year.natAbs
  else "+" ++ wide year.natAbs
where
  /-- At least four digits. -/
  wide (n : Nat) : String := if n < 10000 then Text.padded 4 n else toString n

/-- The stored and exported form, `MM-DD-YYYY`. -/
def text (d : Date) : String := Text.padded 2 d.month ++ "-" ++ Text.padded 2 d.day ++ "-" ++ yearText d.year

/-- The compact form `YYYYMMDD`. -/
def stamp (d : Date) : String := yearText d.year ++ Text.padded 2 d.month ++ Text.padded 2 d.day

/-- The form `YYYY-MM-DD`. -/
def isoText (d : Date) : String := yearText d.year ++ "-" ++ Text.padded 2 d.month ++ "-" ++ Text.padded 2 d.day

/-- Reads month, day and year between separators `/` or `-`: one or two digits for the first two, four for the year. -/
def parse? (s : String) : Option Date :=
  let cs := (Text.trimChars s.toList).map fun c => if c = '/' then '-' else c
  match Text.splitAt '-' cs with
  | [month, day, year] =>
    if (month.length = 1 ∨ month.length = 2) ∧ (day.length = 1 ∨ day.length = 2) ∧ year.length = 4 ∧
        (month ++ day ++ year).all Text.isAsciiDigit then
      of? (Text.readNat year) (Text.readNat month) (Text.readNat day)
    else none
  | _ => none

/-- The stored form of a text that names a date. -/
def normalize? (s : String) : Option String := (parse? s).map text

end Date

end Registrar
