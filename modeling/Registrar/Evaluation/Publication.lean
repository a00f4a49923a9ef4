import Registrar.Batches
import Registrar.Evaluation.IssueLog
import Registrar.Evaluation.Supervision
import Registrar.Failure
import Registrar.World.Service

/-!
# Publications

A publication is the set of nine sheets that the evaluation system takes. `Publication.build` derives them from merged
confirmations: courses and instructors from the rows to be evaluated, gaps filled from the term before, students from
the enrollments of the courses' sections, supervision from the department forms.
-/

namespace Registrar

/-- How a publication is made. -/
structure PublicationOptions where
  term : String
  /-- The root of the department hierarchy. -/
  root : String
  /-- The role of instructors. -/
  role : String
  deriving DecidableEq

/-- What was published for the term before. -/
structure PreviousTerm where
  pairings : Sheet .courseInstructors := {}
  instructors : Sheet .instructors := {}

/-- The sheets of a term. -/
structure Publication where
  courses : Sheet .courses := {}
  courseInstructors : Sheet .courseInstructors := {}
  instructors : Sheet .instructors := {}
  courseStudents : Sheet .courseStudents := {}
  students : Sheet .students := {}
  courseSupervisors : Sheet .courseSupervisors := {}
  supervisors : Sheet .supervisors := {}
  departmentHierarchy : Sheet .departmentHierarchy := {}
  reportViewerHierarchy : Sheet .reportViewerHierarchy := {}

/-- A row that is to be evaluated. -/
def Row.isEvaluated (r : Row .sisImport) : Bool :=
  let flag := Text.trim (r.get .evaluate)
  flag = "Y" || flag = "y"

namespace Publication

/-- The rows to be evaluated, in export order. -/
def evaluated (merged : Sheet .sisImport) : List (Row .sisImport) := merged.sortedRows.filter Row.isEvaluated

/-! ## Courses -/

/-- The published course of a row. -/
def courseOf (r : Row .sisImport) : Row .courses :=
  let id := r.get .courseId
  let course := ((r.project .courses).set .courseId2 id).set .qbMapping
    (r.get .deptForm ++ "-" ++ r.get .evaluationType)
  match CourseId.split? id with
  | some (_, ccn) => course.set .sectionId ccn
  | none => course

/-- One course for each course ID, from its first row. -/
def coursesOf (rows : List (Row .sisImport)) : Sheet .courses :=
  rows.foldl (fun s r => s.insertNew (r.get .courseId) (courseOf r)) {}

/-! ## Instructors -/

/-- The rows with an instructor. -/
def taught (rows : List (Row .sisImport)) : List (Row .sisImport) := rows.filter fun r => !r.isBlankAt .ldapUid

/-- A pairing of a course and a person. -/
def pairing (k : Kind) (course uid : String) : Row k := .ofPairs k [(.courseId, course), (.ldapUid, uid)]

/-- The pairings of courses and instructors. -/
def courseInstructorsOf (rows : List (Row .sisImport)) : Sheet .courseInstructors :=
  (taught rows).foldl (fun s r =>
    let course := r.get .courseId
    let uid := Text.trim (r.get .ldapUid)
    s.insert (CourseId.pairKey course uid) (pairing _ course uid)) {}

/-- The instructor of a row. -/
def instructorOf (role : String) (r : Row .sisImport) : Row .instructors :=
  ((r.project .instructors).set .ldapUid (Text.trim (r.get .ldapUid))).set .blueRole role

/-- Enters a record under a key; a record that is there takes only what it has blank. -/
def enterOrFill {k : Kind} (s : Sheet k) (key : String) (r : Row k) : Sheet k :=
  match s.get? key with
  | some existing => s.insert key (existing.fillFrom r)
  | none => s.insert key r

/-- One record for each instructor, completed from all rows. -/
def instructorsOf (role : String) (rows : List (Row .sisImport)) : Sheet .instructors :=
  (taught rows).foldl (fun s r => enterOrFill s (Text.trim (r.get .ldapUid)) (instructorOf role r)) {}

/-! ## The term before -/

/-- The pairings with those of the term before that are not there yet. -/
def carryPairings (current previous : Sheet .courseInstructors) : Sheet .courseInstructors :=
  previous.toList.foldl (fun s r => s.insertNew (CourseId.pairKey (r.get .courseId) (r.get .ldapUid)) r) current

/-- The campus IDs that pairings refer to, in ascending order. -/
def referenced (pairings : Sheet .courseInstructors) : List String :=
  (distinct (pairings.toList.map fun r => r.get .ldapUid)).mergeSort fun a b => decide (a ≤ b)

/-- The instructors with what the term before knows about those that pairings refer to. -/
def carryInstructors (pairings : Sheet .courseInstructors) (previous current : Sheet .instructors) :
    Sheet .instructors :=
  (referenced pairings).foldl (fun s uid =>
    match previous.matching .ldapUid uid with
    | [] => s
    | prior :: _ => enterOrFill s uid prior) current

/-- The publication with the gaps filled from the term before. -/
def carryOver (p : Publication) (previous : PreviousTerm) : Publication :=
  let pairings := carryPairings p.courseInstructors previous.pairings
  { p with
    courseInstructors := pairings
    instructors := carryInstructors pairings previous.instructors p.instructors }

/-- The log line about pairings of the term before. -/
def carryNote (p : Publication) (previous : PreviousTerm) : LogLine :=
  let carried := (carryPairings p.courseInstructors previous.pairings).size - p.courseInstructors.size
  .info s!"Carried over {carried} course instructor pairings from the previous term"

/-! ## Students -/

/-- The courses that have a section. -/
def sectioned (courses : Sheet .courses) : List (Row .courses) := courses.toList.filter fun r => !r.isBlankAt .sectionId

/-- The sections of the courses, in ascending order. -/
def sections (courses : Sheet .courses) : List String :=
  (distinct ((sectioned courses).map fun r => r.get .sectionId)).mergeSort fun a b => decide (a ≤ b)

/-- The IDs of the courses of a section. -/
def coursesOfSection (courses : Sheet .courses) (ccn : String) : List String :=
  ((sectioned courses).filter fun r => r.get .sectionId = ccn).map fun r => r.get .courseId

/-- The enrollments in sections of the courses. -/
def relevant (courses : Sheet .courses) (enrollments : List Enrollment) : List Enrollment :=
  enrollments.filter fun e => !(coursesOfSection courses e.ccn).isEmpty

/-- The pairings of courses and students. -/
def courseStudentsOf (courses : Sheet .courses) (enrollments : List Enrollment) : Sheet .courseStudents :=
  enrollments.foldl (fun s e =>
    (coursesOfSection courses e.ccn).foldl (fun s course =>
      s.insert (CourseId.pairKey course e.uid) (pairing _ course e.uid)) s) {}

/-- The student of an enrollment. -/
def studentOf (e : Enrollment) : Row .students :=
  .ofPairs _ [(.ldapUid, e.uid), (.sisId, e.sisId), (.firstName, e.firstName), (.lastName, e.lastName),
    (.emailAddress, e.email)]

/-- One record for each student, from the first enrollment. -/
def studentsOf (courses : Sheet .courses) (enrollments : List Enrollment) : Sheet .students :=
  (relevant courses enrollments).foldl (fun s e => s.insertNew e.uid (studentOf e)) {}

/-- The publication with the students of its courses; a failed lookup is logged and leaves it without. -/
def withStudents (p : Publication) (term : String) : Action Publication := do
  let ccns := sections p.courses
  if ccns.isEmpty then return p
  match ← Action.enrollments term ccns with
  | .error reason =>
    Action.log (.error (Failure.callFailed .enrollmentLookup reason).message)
    return p
  | .ok enrollments =>
    return { p with
      courseStudents := courseStudentsOf p.courses enrollments
      students := studentsOf p.courses enrollments }

/-! ## Supervision -/

/-- The pairings of courses and the supervisors of their department forms. -/
def courseSupervisorsOf (rows : List (Row .sisImport)) (supervisors : Sheet .supervisors) :
    Sheet .courseSupervisors :=
  rows.foldl (fun s r =>
    let course := r.get .courseId
    let form := r.get .deptForm
    (supervisors.supervisorsOfForm form).foldl (fun s supervisor =>
      let uid := supervisor.get .ldapUid
      s.insert (CourseId.pairKey course uid) ((pairing _ course uid).set .deptName form)) s) {}

/-- The root of the department hierarchy. -/
def rootNode (root : String) : Row .departmentHierarchy :=
  .ofPairs _ [(.nodeId, root), (.nodeCaption, root), (.level, "1")]

/-- The node of a department. -/
def departmentNode (root name : String) : Row .departmentHierarchy :=
  .ofPairs _ [(.nodeId, CourseId.departmentForm name), (.nodeCaption, name), (.parentNodeId, root),
    (.parentNodeCaption, root), (.level, "2")]

/-- Supervisors paired with each of their departments. -/
def supervised (supervisors : Sheet .supervisors) : List (Row .supervisors × String) :=
  supervisors.toList.flatMap fun r => r.departments.map fun name => (r, name)

/-- The root and one node for each supervised department form. -/
def departmentHierarchyOf (root : String) (supervisors : Sheet .supervisors) : Sheet .departmentHierarchy :=
  (supervised supervisors).foldl (fun s (_, name) =>
    s.insertNew (CourseId.departmentForm name) (departmentNode root name))
    (Sheet.insert {} root (rootNode root))

/-- Which supervisors see the reports of which department form. -/
def reportViewersOf (supervisors : Sheet .supervisors) : Sheet .reportViewerHierarchy :=
  (supervised supervisors).foldl (fun s (supervisor, name) =>
    let form := CourseId.departmentForm name
    let uid := supervisor.get .ldapUid
    s.insert (CourseId.pairKey form uid)
      (.ofPairs _ [(.source, form), (.target, uid), (.roleId, supervisor.get .supervisorGroup)])) {}

/-! ## The whole -/

/-- The publication of merged confirmations. -/
def build (merged : Sheet .sisImport) (supervisors : Sheet .supervisors) (previous : Option PreviousTerm)
    (options : PublicationOptions) : Action Publication := do
  let rows := evaluated merged
  let p : Publication := {
    courses := coursesOf rows
    courseInstructors := courseInstructorsOf rows
    instructors := instructorsOf options.role rows
    courseSupervisors := courseSupervisorsOf rows supervisors
    supervisors
    departmentHierarchy := departmentHierarchyOf options.root supervisors
    reportViewerHierarchy := reportViewersOf supervisors }
  let p ← match previous with
    | none => pure p
    | some previous => do
      Action.log (carryNote p previous)
      pure (p.carryOver previous)
  let p ← p.withStudents options.term
  Action.log (.info (s!"Built {p.courses.size} courses, {p.instructors.size} instructors, " ++
    s!"{p.students.size} students"))
  return p

/-- A sheet of any kind. -/
abbrev AnySheet := (k : Kind) × Sheet k

/-- The sheets in the order in which they are checked and written. -/
def sheets (p : Publication) : List AnySheet :=
  [⟨_, p.courses⟩, ⟨_, p.courseInstructors⟩, ⟨_, p.instructors⟩, ⟨_, p.courseStudents⟩, ⟨_, p.students⟩,
   ⟨_, p.courseSupervisors⟩, ⟨_, p.supervisors⟩, ⟨_, p.departmentHierarchy⟩, ⟨_, p.reportViewerHierarchy⟩]

/-- Records the faults of the rows of one sheet. -/
def recordFaults (log : IssueLog) (s : AnySheet) : IssueLog :=
  s.2.entries.foldl (fun log (key, r) => log.recordAll s.2.exportName key (r.faults.map Fault.message)) log

/-- Records the faults of all rows. -/
def validate (p : Publication) (log : IssueLog) : IssueLog := p.sheets.foldl recordFaults log

end Publication

end Registrar
