import Registrar.CourseId
import Registrar.Sheet.Row

/-!
# Row checks

A kind declares which columns must not be blank and which rules their texts follow. `Row.faults` lists what a row breaks
in the declared order: blanks and broken rules accumulate.
-/

namespace Registrar

/-- What a text must be, beyond not blank. -/
inductive Rule where
  /-- A well-formed course ID. -/
  | courseId
  /-- `Y`, `N` or nothing. -/
  | evaluateFlag
  /-- The text of another column. -/
  | sameAs (other : Column)
  /-- Digits only. -/
  | numeral
  /-- Digits only, or `UID:` and the text of the owner's column. -/
  | sisIdOf (owner : Column)
  /-- `active` or `deleted`. -/
  | accountStatus
  deriving DecidableEq

/-- A column that is checked. -/
structure Check where
  column : Column
  rule : Option Rule := none
  deriving DecidableEq

/-- How a broken rule is reported. -/
inductive Complaint where
  | invalid | unexpected | mismatched | nonNumeric
  deriving DecidableEq

/-- The word for a complaint. -/
def Complaint.word : Complaint → String
  | invalid => "Invalid"
  | unexpected => "Unexpected"
  | mismatched => "Mismatched"
  | nonNumeric => "Non-numeric"

/-- Something wrong with a row. -/
inductive Fault where
  | blank (column : Column)
  | refused (complaint : Complaint) (column : Column) (value : String)
  deriving DecidableEq

namespace Fault

/-- The column at fault. -/
def column : Fault → Column
  | blank c => c
  | refused _ c _ => c

/-- The report line of a fault. -/
def message : Fault → String
  | blank c => "Blank " ++ c.header
  | refused complaint c value => complaint.word ++ " " ++ c.header ++ " " ++ value

end Fault

/-- A SIS ID that is either a number or `UID:` and the owner's campus ID. -/
def isSisIdOf (uid sisId : String) : Bool := sisId = "UID:" ++ uid || Text.isNumeral sisId

/-- The complaint about a text in a row, if the rule is broken. -/
def Rule.complaint? {k : Kind} (rule : Rule) (r : Row k) (value : String) : Option Complaint :=
  match rule with
  | courseId => if CourseId.isWellFormed value then none else some .invalid
  | evaluateFlag => if value ∈ ["", "Y", "N"] then none else some .unexpected
  | sameAs other => if value = r.get other then none else some .mismatched
  | numeral => if Text.isNumeral value then none else some .nonNumeric
  | sisIdOf owner => if isSisIdOf (r.get owner) value then none else some .unexpected
  | accountStatus => if value ∈ ["active", "deleted"] then none else some .unexpected

open Column in
/-- The checks of a kind, in the order in which faults are listed. -/
def Kind.checks : Kind → List Check
  | .sisImport => [⟨courseId, some .courseId⟩, ⟨courseName, none⟩, ⟨startDate, none⟩, ⟨endDate, none⟩]
  | .courseConfirmation => [⟨courseId, some .courseId⟩, ⟨evaluate, some .evaluateFlag⟩]
  | .courses =>
    [⟨courseId, some .courseId⟩, ⟨courseId2, some (.sameAs courseId)⟩, ⟨courseName, none⟩, ⟨deptForm, none⟩,
     ⟨evaluationType, none⟩, ⟨startDate, none⟩, ⟨endDate, none⟩]
  | .instructors =>
    [⟨ldapUid, some .numeral⟩, ⟨sisId, some (.sisIdOf ldapUid)⟩, ⟨firstName, none⟩, ⟨lastName, none⟩,
     ⟨emailAddress, none⟩, ⟨blueRole, none⟩]
  | .students =>
    [⟨ldapUid, some .numeral⟩, ⟨sisId, some (.sisIdOf ldapUid)⟩, ⟨firstName, none⟩, ⟨lastName, none⟩,
     ⟨emailAddress, none⟩]
  | .courseInstructors | .courseStudents => [⟨courseId, some .courseId⟩, ⟨ldapUid, some .numeral⟩]
  | .supervisors => [⟨ldapUid, some .numeral⟩, ⟨sisId, some (.sisIdOf ldapUid)⟩]
  | .courseSupervisors => [⟨courseId, some .courseId⟩, ⟨ldapUid, some .numeral⟩, ⟨deptName, none⟩]
  | .userImport => [⟨userId, none⟩, ⟨loginId, none⟩, ⟨status, some .accountStatus⟩]
  | .departmentHierarchy | .reportViewerHierarchy | .provisionedUsers | .sisIdChanges => []

/-- What a row breaks of one check. -/
def Check.faults {k : Kind} (check : Check) (r : Row k) : List Fault :=
  let value := r.get check.column
  (if Text.isBlankText value then [.blank check.column] else []) ++
    match check.rule.bind fun rule => rule.complaint? r value with
    | some complaint => [.refused complaint check.column value]
    | none => []

/-- Everything wrong with a row. -/
def Row.faults {k : Kind} (r : Row k) : List Fault := k.checks.flatMap fun check => check.faults r

end Registrar
