import Registrar.Calendar.Date
import Registrar.Sheet.Row

/-!
# Evaluation windows

The window of a row runs from its start date to its end date. Two windows are separate when a gap of more days than a
threshold lies between them (`Window.isSeparateFrom`). `GroupDecision.of` says what becomes of the rows of one course
ID: separate windows of one instructor, and different windows of different instructors, are different courses.
-/

namespace Registrar

/-- The days during which a course is evaluated. -/
structure Window where
  first : Date
  last : Date
  deriving DecidableEq

namespace Window

/-- The window of a row whose dates are readable. -/
def of? (r : Row .sisImport) : Option Window := do
  return ⟨← Date.parse? (r.get .startDate), ← Date.parse? (r.get .endDate)⟩

/-- Whether `b` starts more than `gap` days after the end of `a`; beyond the reach of the calendar nothing does. -/
def isBefore (gap : Int) (a b : Window) : Bool := (a.last.numberAfter? gap).any fun limit => limit < b.first.number

/-- Whether a gap of more than `gap` days lies between two windows. -/
def isSeparateFrom (gap : Int) (a b : Window) : Bool := isBefore gap a b || isBefore gap b a

end Window

/-- What becomes of the rows that share a course ID. -/
inductive GroupDecision where
  /-- All rows share one window. -/
  | uniform
  /-- Different windows are different courses. -/
  | split
  /-- Two windows of one instructor touch or overlap. -/
  | conflict
  /-- Some window is unreadable. -/
  | unreadable
  deriving DecidableEq

namespace GroupDecision

/-- Whether two rows with their windows stand in the way of a split. -/
def clash (gap : Int) (a b : Row .sisImport × Window) : Bool :=
  a.2 ≠ b.2 && a.1.get .ldapUid = b.1.get .ldapUid && !a.2.isSeparateFrom gap b.2

/-- Whether some two rows stand in the way of a split. -/
def hasClash (gap : Int) : List (Row .sisImport × Window) → Bool
  | [] => false
  | a :: rest => rest.any (clash gap a) || hasClash gap rest

/-- The windows of all rows, if all are readable. -/
def windows? : List (Row .sisImport) → Option (List Window)
  | [] => some []
  | r :: rest => do return (← Window.of? r) :: (← windows? rest)

/-- All windows are one. -/
def isUniform : List Window → Bool
  | [] => true
  | w :: rest => rest.all (· = w)

/-- What becomes of rows that share a course ID. -/
def of (gap : Int) (rows : List (Row .sisImport)) : GroupDecision :=
  match windows? rows with
  | none => unreadable
  | some windows =>
    if isUniform windows then uniform
    else if hasClash gap (rows.zip windows) then conflict
    else split

end GroupDecision

end Registrar
