import Registrar.Sheet.Column

/-!
# Kinds of sheet

A `Kind` fixes the columns of a sheet, the name of its file, the order in which its rows are exported and whether
numerals are protected from spreadsheets. Transient columns may be assigned and are never exported. No kind names a
column twice (`Kind.nodup_columns`).
-/

namespace Registrar

/-- What a sheet holds. -/
inductive Kind where
  /-- Section and instructor data of a department; also the layout of merged confirmations. -/
  | sisImport
  /-- What a department confirms about its sections. -/
  | courseConfirmation
  | courses | instructors | students | courseInstructors | courseStudents | supervisors | courseSupervisors
  | departmentHierarchy | reportViewerHierarchy
  /-- The directory's report of its accounts. -/
  | provisionedUsers
  /-- Account updates for the directory. -/
  | userImport
  /-- Changes of account IDs for the directory. -/
  | sisIdChanges
  deriving DecidableEq, Inhabited

namespace Kind

open Column

/-- The columns of an export, in order. -/
def exported : Kind → List Column
  | sisImport =>
    [courseId, courseId2, courseName, crossListedFlag, crossListedName, deptName, catalogId, instructionFormat,
     sectionNum, primarySecondaryCd, ldapUid, sisId, firstName, lastName, emailAddress, instructorFunc, evaluate,
     deptForm, evaluationType, modularCourse, startDate, endDate, canvasCourseId]
  | courseConfirmation =>
    [courseId, courseName, crossListedFlag, crossListedName, ldapUid, firstName, lastName, emailAddress, evaluate,
     deptForm, evaluationType, startDate, endDate]
  | courses =>
    [courseId, courseId2, courseName, crossListedFlag, crossListedName, deptName, catalogId, instructionFormat,
     sectionNum, primarySecondaryCd, evaluate, deptForm, evaluationType, modularCourse, startDate, endDate,
     canvasCourseId, qbMapping]
  | instructors => [ldapUid, sisId, firstName, lastName, emailAddress, blueRole]
  | students => [ldapUid, sisId, firstName, lastName, emailAddress]
  | courseInstructors | courseStudents => [courseId, ldapUid]
  | supervisors =>
    [ldapUid, sisId, firstName, lastName, emailAddress, supervisorGroup, primaryAdmin, secondaryAdmin] ++
      supervisedDepts
  | courseSupervisors => [courseId, ldapUid, deptName]
  | departmentHierarchy => [nodeId, nodeCaption, parentNodeId, parentNodeCaption, level]
  | reportViewerHierarchy => [source, target, roleId]
  | provisionedUsers => [canvasUserId, userId, loginId, givenName, familyName, fullName, email, status]
  | userImport => [userId, loginId, givenName, familyName, email, status]
  | sisIdChanges => [oldId, newId, oldIntegrationId, newIntegrationId, changeType]

/-- The columns that are kept in rows and left out of exports. -/
def transient : Kind → List Column
  | courses => [sectionId]
  | _ => []

/-- Every column of a row, exported ones first. -/
def columns (k : Kind) : List Column := k.exported ++ k.transient

/-- The name of a sheet that has not been given another. -/
def exportName : Kind → String
  | sisImport => "sis_import"
  | courseConfirmation => "course_confirmations"
  | courses => "courses"
  | instructors => "instructors"
  | students => "students"
  | courseInstructors => "course_instructors"
  | courseStudents => "course_students"
  | supervisors => "supervisors"
  | courseSupervisors => "course_supervisors"
  | departmentHierarchy => "department_hierarchy"
  | reportViewerHierarchy => "report_viewer_hierarchy"
  | provisionedUsers => "provisioned-users"
  | userImport => "user-provision"
  | sisIdChanges => "sis-id-changes"

/-- Whether numerals get an apostrophe in front, so that a spreadsheet keeps them as text. -/
def protectsNumerals : Kind → Bool
  | provisionedUsers | userImport | sisIdChanges => false
  | _ => true

/-- The columns by which rows are sorted for export; rows of other kinds keep their order. -/
def exportOrder : Kind → List Column
  | sisImport | courses => [crossListedName, courseId]
  | _ => []

/-- Where a row of this kind holds a column. -/
def index? (k : Kind) (c : Column) : Option (Fin k.columns.length) := k.columns.finIdxOf? c

/-- The header texts of an export. -/
def headerLine (k : Kind) : List String := k.exported.map header

theorem nodup_columns (k : Kind) : k.columns.Nodup := by cases k <;> decide

theorem index?_eq_some_iff {k : Kind} {c : Column} {i : Fin k.columns.length} :
    k.index? c = some i ↔ k.columns.get i = c := by
  rw [index?, List.finIdxOf?_eq_some_iff]
  refine ⟨And.left, fun h => ⟨h, fun j hj hc => ?_⟩⟩
  have : j.val = i.val := (List.getElem_inj k.nodup_columns).1 (hc.trans h.symm)
  exact absurd this (Nat.ne_of_lt hj)

theorem index?_eq_none_iff {k : Kind} {c : Column} : k.index? c = none ↔ c ∉ k.columns :=
  List.finIdxOf?_eq_none_iff

theorem index?_columns (k : Kind) (i : Fin k.columns.length) : k.index? (k.columns.get i) = some i :=
  index?_eq_some_iff.2 rfl

end Kind

end Registrar
