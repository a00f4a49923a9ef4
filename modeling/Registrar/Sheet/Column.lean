/-!
# Columns

A `Column` is what a header line names. One list serves every kind of sheet, so that rows of two kinds share a column
exactly when both kinds declare it. `Column.ofHeader?` finds the column of a header text (`ofHeader?_header`).
-/

namespace Registrar

/-- A column, known by its header. -/
inductive Column where
  -- courses and their confirmations
  | courseId | courseId2 | courseName | crossListedFlag | crossListedName | deptName | catalogId | instructionFormat
  | sectionNum | primarySecondaryCd | instructorFunc | evaluate | deptForm | evaluationType | modularCourse
  | startDate | endDate | canvasCourseId | qbMapping | sectionId
  -- people
  | ldapUid | sisId | firstName | lastName | emailAddress | blueRole
  -- supervision
  | supervisorGroup | primaryAdmin | secondaryAdmin
  | supervisedDept (slot : Fin 10)
  | nodeId | nodeCaption | parentNodeId | parentNodeCaption | level
  | source | target | roleId
  -- directory accounts
  | canvasUserId | userId | loginId | givenName | familyName | fullName | email | status
  | oldId | newId | oldIntegrationId | newIntegrationId | changeType
  deriving DecidableEq, Inhabited

namespace Column

/-- The header text. -/
def header : Column → String
  | courseId => "COURSE_ID"
  | courseId2 => "COURSE_ID_2"
  | courseName => "COURSE_NAME"
  | crossListedFlag => "CROSS_LISTED_FLAG"
  | crossListedName => "CROSS_LISTED_NAME"
  | deptName => "DEPT_NAME"
  | catalogId => "CATALOG_ID"
  | instructionFormat => "INSTRUCTION_FORMAT"
  | sectionNum => "SECTION_NUM"
  | primarySecondaryCd => "PRIMARY_SECONDARY_CD"
  | instructorFunc => "INSTRUCTOR_FUNC"
  | evaluate => "EVALUATE"
  | deptForm => "DEPT_FORM"
  | evaluationType => "EVALUATION_TYPE"
  | modularCourse => "MODULAR_COURSE"
  | startDate => "START_DATE"
  | endDate => "END_DATE"
  | canvasCourseId => "CANVAS_COURSE_ID"
  | qbMapping => "QB_MAPPING"
  | sectionId => "SECTION_ID"
  | ldapUid => "LDAP_UID"
  | sisId => "SIS_ID"
  | firstName => "FIRST_NAME"
  | lastName => "LAST_NAME"
  | emailAddress => "EMAIL_ADDRESS"
  | blueRole => "BLUE_ROLE"
  | supervisorGroup => "SUPERVISOR_GROUP"
  | primaryAdmin => "PRIMARY_ADMIN"
  | secondaryAdmin => "SECONDARY_ADMIN"
  | supervisedDept slot => "DEPT_NAME_" ++ toString (slot.val + 1)
  | nodeId => "NODE_ID"
  | nodeCaption => "NODE_CAPTION"
  | parentNodeId => "PARENT_NODE_ID"
  | parentNodeCaption => "PARENT_NODE_CAPTION"
  | level => "LEVEL"
  | source => "SOURCE"
  | target => "TARGET"
  | roleId => "ROLE_ID"
  | canvasUserId => "canvas_user_id"
  | userId => "user_id"
  | loginId => "login_id"
  | givenName => "first_name"
  | familyName => "last_name"
  | fullName => "full_name"
  | email => "email"
  | status => "status"
  | oldId => "old_id"
  | newId => "new_id"
  | oldIntegrationId => "old_integration_id"
  | newIntegrationId => "new_integration_id"
  | changeType => "type"

/-- The ten department columns of a supervisor. -/
def supervisedDepts : List Column := (List.finRange 10).map supervisedDept

/-- Every column. -/
def all : List Column :=
  [courseId, courseId2, courseName, crossListedFlag, crossListedName, deptName, catalogId, instructionFormat,
   sectionNum, primarySecondaryCd, instructorFunc, evaluate, deptForm, evaluationType, modularCourse, startDate,
   endDate, canvasCourseId, qbMapping, sectionId, ldapUid, sisId, firstName, lastName, emailAddress, blueRole,
   supervisorGroup, primaryAdmin, secondaryAdmin, nodeId, nodeCaption, parentNodeId, parentNodeCaption, level, source,
   target, roleId, canvasUserId, userId, loginId, givenName, familyName, fullName, email, status, oldId, newId,
   oldIntegrationId, newIntegrationId, changeType] ++ supervisedDepts

/-- The column that a header text names. -/
def ofHeader? (text : String) : Option Column := all.find? fun c => c.header == text

theorem mem_all (c : Column) : c ∈ all := by
  cases c with
  | supervisedDept slot => exact List.mem_append_right _ (List.mem_map.2 ⟨slot, List.mem_finRange slot, rfl⟩)
  | _ => exact List.mem_append_left _ (by decide)

theorem ofHeader?_header (c : Column) : ofHeader? c.header = some c := by
  have h : ∀ c ∈ all, ofHeader? c.header = some c := by decide +kernel
  exact h c (mem_all c)

theorem header_injective {c d : Column} (h : c.header = d.header) : c = d :=
  Option.some.inj (by rw [← ofHeader?_header c, h, ofHeader?_header])

end Column

end Registrar
