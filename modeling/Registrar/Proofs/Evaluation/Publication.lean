import Registrar.Proofs.CourseId
import Registrar.Proofs.Sheet.Entering
import Registrar.Proofs.Sheet.Order
import Registrar.Proofs.Sheet.Row
import Registrar.Proofs.Text.Blank
import Registrar.Proofs.World.Yields
import Registrar.World.Memory

/-!
# What the sheets of a publication hold

Courses, instructors and students stand under their own IDs, each once, in the order in which they come first
(`values_coursesOf`, `values_instructorsOf`, `values_studentsOf`). The pairings are those of the rows with an instructor
and those of the enrollments in sections of the courses, as far as campus IDs have no `-`, so that no two pairings share
a key (`mem_courseInstructorsOf`, `mem_courseStudentsOf`); whatever the IDs are, a supervision pairs a row with a
supervisor of its form (`exists_of_mem_courseSupervisorsOf`).

Against a source that answers, a publication is built from its rows and the enrollments of the answer, or from no
enrollments where the source refuses or is not asked (`yields_build`).
-/

namespace Registrar.Publication

variable {σ : Type} {h : Handler services σ} {s : σ} {rows : List (Row .sisImport)} {courses : Sheet .courses}
  {supervisors : Sheet .supervisors} {es : List Enrollment} {k : Kind}

/-! ## Rows to be evaluated -/

/-- Rows that are in export order already are evaluated in this order. -/
theorem evaluated_ofRows {l : List (Row .sisImport)}
    (hsorted : l.Pairwise fun a b => Sheet.inOrder (Sheet.sortKey a) (Sheet.sortKey b)) :
    evaluated (.ofRows _ l) = l.filter Row.isEvaluated := by
  rw [evaluated, Sheet.sortedRows, Sheet.toList_ofRows, List.mergeSort_of_pairwise hsorted]

/-! ## Pairings -/

theorem get_pairing_courseId (hk : .courseId ∈ k.columns) (course uid : String) :
    (pairing k course uid).get .courseId = course := by
  show (((Row.blank k).set .courseId course).set .ldapUid uid).get .courseId = course
  rw [Row.get_set_of_ne _ _ (by decide), Row.get_set_self _ _ hk]

theorem get_pairing_ldapUid (hk : .ldapUid ∈ k.columns) (course uid : String) :
    (pairing k course uid).get .ldapUid = uid := Row.get_set_self _ _ hk

/-! ## Courses -/

theorem get_courseOf_courseId (r : Row .sisImport) : (courseOf r).get .courseId = r.get .courseId := by
  have hproject : ((((r.project .courses).set .courseId2 (r.get .courseId)).set .qbMapping
      (r.get .deptForm ++ "-" ++ r.get .evaluationType)).get .courseId) = r.get .courseId := by
    rw [Row.get_set_of_ne _ _ (by decide), Row.get_set_of_ne _ _ (by decide),
      Row.get_project r (by decide) (by decide)]
  rw [courseOf]
  split
  · rw [Row.get_set_of_ne _ _ (by decide)]
    exact hproject
  · exact hproject

/-- The published courses: the course IDs of the rows, each where it comes first. -/
theorem values_coursesOf (rows : List (Row .sisImport)) :
    Integrity.values (coursesOf rows) .courseId = distinct (rows.map fun r => r.get .courseId) :=
  Sheet.values_insertNew fun r _ => get_courseOf_courseId r

/-! ## Instructors -/

/-- The campus ID of the instructor of a row. -/
def instructorUid (r : Row .sisImport) : String := Text.trim (r.get .ldapUid)

theorem mem_taught_iff {r : Row .sisImport} : r ∈ taught rows ↔ r ∈ rows ∧ r.isBlankAt .ldapUid = false := by
  rw [taught, List.mem_filter, Bool.not_eq_true']

theorem not_mem_instructorUid {r : Row .sisImport} (h : '-' ∉ (r.get .ldapUid).toList) :
    '-' ∉ (instructorUid r).toList := by
  rw [instructorUid, Text.toList_trim]
  exact fun hmem => h (Text.mem_of_mem_trimChars hmem)

/-- Every row with an instructor pairs its course with the instructor, and nothing else does. -/
theorem mem_courseInstructorsOf (hplain : ∀ r ∈ rows, '-' ∉ (r.get .ldapUid).toList) {p : Row .courseInstructors} :
    p ∈ (courseInstructorsOf rows).toList ↔
      ∃ r ∈ taught rows, pairing _ (r.get .courseId) (instructorUid r) = p := by
  have huid : ∀ r ∈ taught rows, '-' ∉ (instructorUid r).toList := fun r hr =>
    not_mem_instructorUid (hplain r (mem_taught_iff.1 hr).1)
  apply Sheet.mem_toList_enterAll_iff
  intro a ha b hb hkey
  obtain ⟨hcourse, hsame⟩ := CourseId.pairKey_inj (huid a ha) (huid b hb) hkey
  exact congrArg₂ (pairing _) hcourse hsame

theorem get_instructorOf_ldapUid (role : String) (r : Row .sisImport) :
    (instructorOf role r).get .ldapUid = instructorUid r := by
  rw [instructorOf, Row.get_set_of_ne _ _ (by decide), Row.get_set_self _ _ (by decide), instructorUid]

/-- The published instructors: the campus IDs of the rows with an instructor, each where it comes first. -/
theorem values_instructorsOf (role : String) (rows : List (Row .sisImport)) :
    Integrity.values (instructorsOf role rows) .ldapUid = distinct ((taught rows).map instructorUid) :=
  Sheet.values_enterOrFill fun r _ => get_instructorOf_ldapUid role r

/-! ## Students -/

/-- The courses of a section are those that state it; a blank section is none. -/
theorem mem_coursesOfSection_iff {ccn course : String} :
    course ∈ coursesOfSection courses ccn ↔
      ∃ c ∈ courses.toList, c.get .courseId = course ∧ c.isBlankAt .sectionId = false ∧ c.get .sectionId = ccn := by
  simp only [coursesOfSection, sectioned, List.mem_map, List.mem_filter, Bool.not_eq_true', decide_eq_true_eq]
  constructor
  · rintro ⟨c, ⟨⟨hc, hblank⟩, hccn⟩, hcourse⟩
    exact ⟨c, hc, hcourse, hblank, hccn⟩
  · rintro ⟨c, hc, hcourse, hblank, hccn⟩
    exact ⟨c, ⟨⟨hc, hblank⟩, hccn⟩, hcourse⟩

theorem mem_values_of_mem_coursesOfSection {ccn course : String} (h : course ∈ coursesOfSection courses ccn) :
    course ∈ Integrity.values courses .courseId := by
  obtain ⟨c, hc, rfl, -⟩ := mem_coursesOfSection_iff.1 h
  exact List.mem_map_of_mem hc

theorem mem_relevant_iff {e : Enrollment} :
    e ∈ relevant courses es ↔ e ∈ es ∧ ∃ course, course ∈ coursesOfSection courses e.ccn := by
  rw [relevant, List.mem_filter, Bool.not_eq_true', List.isEmpty_eq_false_iff_exists_mem]

/-- The courses of each enrollment with the campus ID of the student. -/
def attendances (courses : Sheet .courses) (es : List Enrollment) : List (String × String) :=
  es.flatMap fun e => (coursesOfSection courses e.ccn).map fun course => (course, e.uid)

theorem courseStudentsOf_eq (courses : Sheet .courses) (es : List Enrollment) :
    courseStudentsOf courses es =
      Sheet.enterAll (fun a => CourseId.pairKey a.1 a.2) (fun _ a => pairing _ a.1 a.2) {}
        (attendances courses es) := by
  rw [Sheet.enterAll, attendances, List.foldl_flatMap]
  simp only [List.foldl_map]
  rfl

theorem mem_attendances_iff {a : String × String} :
    a ∈ attendances courses es ↔ ∃ e ∈ es, a.1 ∈ coursesOfSection courses e.ccn ∧ e.uid = a.2 := by
  obtain ⟨course, uid⟩ := a
  simp only [attendances, List.mem_flatMap, List.mem_map, Prod.mk.injEq]
  constructor
  · rintro ⟨e, he, _, hcourse, rfl, huid⟩
    exact ⟨e, he, hcourse, huid⟩
  · rintro ⟨e, he, hcourse, huid⟩
    exact ⟨e, he, course, hcourse, rfl, huid⟩

/-- Every enrollment pairs the courses of its section with the student, and nothing else does. -/
theorem mem_courseStudentsOf (hplain : ∀ e ∈ es, '-' ∉ e.uid.toList) {p : Row .courseStudents} :
    p ∈ (courseStudentsOf courses es).toList ↔
      ∃ e ∈ es, ∃ course ∈ coursesOfSection courses e.ccn, pairing _ course e.uid = p := by
  have huid : ∀ a ∈ attendances courses es, '-' ∉ a.2.toList := by
    intro a ha
    obtain ⟨e, he, -, hsame⟩ := mem_attendances_iff.1 ha
    exact hsame ▸ hplain e he
  rw [courseStudentsOf_eq, Sheet.mem_toList_enterAll_iff]
  · constructor
    · rintro ⟨⟨course, uid⟩, ha, rfl⟩
      obtain ⟨e, he, hcourse, rfl⟩ := mem_attendances_iff.1 ha
      exact ⟨e, he, course, hcourse, rfl⟩
    · rintro ⟨e, he, course, hcourse, rfl⟩
      exact ⟨(course, e.uid), mem_attendances_iff.2 ⟨e, he, hcourse, rfl⟩, rfl⟩
  · intro a ha b hb hkey
    obtain ⟨hcourse, hsame⟩ := CourseId.pairKey_inj (huid a ha) (huid b hb) hkey
    rw [hcourse, hsame]

theorem get_studentOf_ldapUid (e : Enrollment) : (studentOf e).get .ldapUid = e.uid := by
  simp (disch := decide) only [studentOf, Row.ofPairs, List.foldl_cons, List.foldl_nil, Row.get_set_of_ne,
    Row.get_set_self]

/-- The published students: the campus IDs of the enrollments in sections of the courses, each where it comes first. -/
theorem values_studentsOf (courses : Sheet .courses) (es : List Enrollment) :
    Integrity.values (studentsOf courses es) .ldapUid = distinct ((relevant courses es).map Enrollment.uid) :=
  Sheet.values_insertNew fun e _ => get_studentOf_ldapUid e

/-! ## Supervision -/

/-- The supervision of a row by a supervisor. -/
def supervision (r : Row .sisImport) (supervisor : Row .supervisors) : Row .courseSupervisors :=
  (pairing _ (r.get .courseId) (supervisor.get .ldapUid)).set .deptName (r.get .deptForm)

theorem get_supervision_courseId (r : Row .sisImport) (supervisor : Row .supervisors) :
    (supervision r supervisor).get .courseId = r.get .courseId := by
  rw [supervision, Row.get_set_of_ne _ _ (by decide), get_pairing_courseId (by decide)]

theorem get_supervision_ldapUid (r : Row .sisImport) (supervisor : Row .supervisors) :
    (supervision r supervisor).get .ldapUid = supervisor.get .ldapUid := by
  rw [supervision, Row.get_set_of_ne _ _ (by decide), get_pairing_ldapUid (by decide)]

/-- The rows with each of the supervisors of their form. -/
def supervisions (rows : List (Row .sisImport)) (supervisors : Sheet .supervisors) :
    List (Row .sisImport × Row .supervisors) :=
  rows.flatMap fun r => (supervisors.supervisorsOfForm (r.get .deptForm)).map fun supervisor => (r, supervisor)

theorem mem_supervisions_iff {r : Row .sisImport} {supervisor : Row .supervisors} :
    (r, supervisor) ∈ supervisions rows supervisors ↔
      r ∈ rows ∧ supervisor ∈ supervisors.supervisorsOfForm (r.get .deptForm) := by
  simp only [supervisions, List.mem_flatMap, List.mem_map, Prod.mk.injEq]
  constructor
  · rintro ⟨_, hr, _, hsupervisor, rfl, rfl⟩
    exact ⟨hr, hsupervisor⟩
  · rintro ⟨hr, hsupervisor⟩
    exact ⟨r, hr, supervisor, hsupervisor, rfl, rfl⟩

theorem courseSupervisorsOf_eq (rows : List (Row .sisImport)) (supervisors : Sheet .supervisors) :
    courseSupervisorsOf rows supervisors =
      Sheet.enterAll (fun a => CourseId.pairKey (a.1.get .courseId) (a.2.get .ldapUid)) (fun _ a => supervision a.1 a.2)
        {} (supervisions rows supervisors) := by
  rw [Sheet.enterAll, supervisions, List.foldl_flatMap]
  simp only [List.foldl_map]
  rfl

/-- A supervision is that of a row by a supervisor of its form. -/
theorem exists_of_mem_courseSupervisorsOf {p : Row .courseSupervisors}
    (hp : p ∈ (courseSupervisorsOf rows supervisors).toList) :
    ∃ r ∈ rows, ∃ supervisor ∈ supervisors.supervisorsOfForm (r.get .deptForm), supervision r supervisor = p := by
  rw [courseSupervisorsOf_eq] at hp
  obtain ⟨x, hx⟩ := Sheet.mem_toList_iff.1 hp
  obtain ⟨⟨r, supervisor⟩, ha, -, hrow⟩ := Sheet.exists_of_get?_enterAll hx
  obtain ⟨hr, hsupervisor⟩ := mem_supervisions_iff.1 ha
  exact ⟨r, hr, supervisor, hsupervisor, hrow⟩

theorem mem_of_mem_supervisorsOfForm {form : String} {supervisor : Row .supervisors}
    (h : supervisor ∈ supervisors.supervisorsOfForm form) : supervisor ∈ supervisors.toList := by
  rw [Sheet.supervisorsOfForm] at h
  split at h
  · cases h
  · exact (List.mem_filter.1 h).1

/-! ## The whole -/

/-- The publication before its students are looked up and without the term before. -/
def ofRows (rows : List (Row .sisImport)) (supervisors : Sheet .supervisors) (options : PublicationOptions) :
    Publication where
  courses := coursesOf rows
  courseInstructors := courseInstructorsOf rows
  instructors := instructorsOf options.role rows
  courseSupervisors := courseSupervisorsOf rows supervisors
  supervisors
  departmentHierarchy := departmentHierarchyOf options.root supervisors
  reportViewerHierarchy := reportViewersOf supervisors

/-- The publication with the students of enrollments. -/
def attended (p : Publication) (es : List Enrollment) : Publication :=
  { p with courseStudents := courseStudentsOf p.courses es, students := studentsOf p.courses es }

/-- The enrollments of a reply. -/
def answered : Except String (List Enrollment) → List Enrollment
  | .ok es => es
  | .error _ => []

/-- The reply of a source to the query for the students of sections; nothing is asked where there is none. -/
def Replies (h : Handler services σ) (s : σ) (term : String) (ccns : List String)
    (reply : Except String (List Enrollment)) : Prop :=
  ccns ≠ [] → ∃ t, h (.enrollments term ccns) s = (.ok reply, t)

theorem replies_memory (w : World) (term : String) (ccns : List String) :
    Replies World.handler w term ccns (w.query (w.campus.enrollmentsOf ccns)) := fun _ => ⟨_, rfl⟩

/-- The sections that are asked for are those that courses state. -/
theorem mem_sections_iff {ccn : String} :
    ccn ∈ sections courses ↔ ∃ c ∈ courses.toList, c.isBlankAt .sectionId = false ∧ c.get .sectionId = ccn := by
  rw [sections, List.mem_mergeSort, mem_distinct]
  simp only [sectioned, List.mem_map, List.mem_filter, Bool.not_eq_true', and_assoc]

theorem mem_sections_of_mem_coursesOfSection {ccn course : String} (h : course ∈ coursesOfSection courses ccn) :
    ccn ∈ sections courses := by
  obtain ⟨c, hc, -, hstated⟩ := mem_coursesOfSection_iff.1 h
  exact mem_sections_iff.2 ⟨c, hc, hstated⟩

/-- Without a section nobody attends. -/
theorem attended_of_sections_eq_nil {p : Publication} (hnone : sections p.courses = []) (es : List Enrollment) :
    p.attended es = p.attended [] := by
  have hcourses : ∀ ccn, coursesOfSection p.courses ccn = [] := fun ccn =>
    List.eq_nil_iff_forall_not_mem.2 fun course hcourse => by
      have := mem_sections_of_mem_coursesOfSection hcourse
      rw [hnone] at this
      cases this
  have hattendances : attendances p.courses es = [] := by
    simp [attendances, hcourses]
  have hrelevant : relevant p.courses es = [] := by
    simp [relevant, hcourses]
  rw [attended, courseStudentsOf_eq, hattendances, studentsOf, hrelevant]
  rfl

theorem attended_nil {p : Publication} (hpairings : p.courseStudents = {}) (hstudents : p.students = {}) :
    p.attended [] = p := by
  show { p with courseStudents := {}, students := {} } = p
  rw [← hpairings, ← hstudents]

theorem yields_withStudents {p : Publication} {term : String} {reply : Except String (List Enrollment)}
    (hpairings : p.courseStudents = {}) (hstudents : p.students = {})
    (hreply : Replies h s term (sections p.courses) reply) :
    ∃ t, (p.withStudents term).Yields h s (p.attended (answered reply)) t := by
  unfold withStudents
  by_cases hnone : sections p.courses = []
  · rw [attended_of_sections_eq_nil hnone, attended_nil hpairings hstudents, hnone]
    exact ⟨s, Program.yields_pure p h s⟩
  · obtain ⟨t, ht⟩ := hreply hnone
    refine ⟨t, ?_⟩
    simp only [List.isEmpty_iff, hnone, if_false]
    refine .bind (Program.yields_ask ht) ?_
    cases reply with
    | error reason =>
      rw [answered, attended_nil hpairings hstudents]
      exact .bind (Program.yields_log _ h t) (Program.yields_pure p h t)
    | ok es => exact Program.yields_pure _ h t

/-- The publication with its gaps filled from the term before, if there is one. -/
def carried (p : Publication) : Option PreviousTerm → Publication
  | none => p
  | some previous => p.carryOver previous

section Supervision

variable (rows : List (Row .sisImport)) (supervisors : Sheet .supervisors) (previous : Option PreviousTerm)
  (options : PublicationOptions) (es : List Enrollment)

theorem courseSupervisors_attended :
    (((ofRows rows supervisors options).carried previous).attended es).courseSupervisors =
      courseSupervisorsOf rows supervisors := by
  cases previous <;> rfl

theorem departmentHierarchy_attended :
    (((ofRows rows supervisors options).carried previous).attended es).departmentHierarchy =
      departmentHierarchyOf options.root supervisors := by
  cases previous <;> rfl

theorem reportViewerHierarchy_attended :
    (((ofRows rows supervisors options).carried previous).attended es).reportViewerHierarchy =
      reportViewersOf supervisors := by
  cases previous <;> rfl

end Supervision

/-- A publication is made of its rows, the term before and the enrollments of the reply. -/
theorem yields_build {merged : Sheet .sisImport} {options : PublicationOptions}
    {reply : Except String (List Enrollment)} (supervisors : Sheet .supervisors) (previous : Option PreviousTerm)
    (hreply : Replies h s options.term (sections (coursesOf (evaluated merged))) reply) :
    ∃ t, (build merged supervisors previous options).Yields h s
      (((ofRows (evaluated merged) supervisors options).carried previous).attended (answered reply)) t := by
  cases previous with
  | none =>
    obtain ⟨t, ht⟩ := yields_withStudents (p := ofRows (evaluated merged) supervisors options) rfl rfl hreply
    exact ⟨t, .bind (Program.yields_pure _ h s)
      (.bind ht (.bind (Program.yields_log _ h t) (Program.yields_pure _ h t)))⟩
  | some previous =>
    obtain ⟨t, ht⟩ := yields_withStudents
      (p := (ofRows (evaluated merged) supervisors options).carryOver previous) rfl rfl hreply
    exact ⟨t, .bind (Program.yields_log _ h s) (.bind (Program.yields_pure _ h s)
      (.bind ht (.bind (Program.yields_log _ h t) (Program.yields_pure _ h t))))⟩

end Registrar.Publication
