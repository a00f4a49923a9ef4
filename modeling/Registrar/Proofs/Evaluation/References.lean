import Registrar.Proofs.Evaluation.Publication

/-!
# References of built sheets

No pairing of a publication made of its rows and of enrollments leads nowhere, and every instructor and student is
paired, as far as campus IDs have no `-` (`dangling_attended`). What is left to report are the courses of the term that
nobody teaches: those whose rows all lack an instructor (`untaught_ofRows`). So a check of what `build` makes without a
term before reports them and nothing else (`build_references`).
-/

namespace Registrar

namespace Integrity

variable {k d : Kind} {term uid : String} {pairings : Sheet k} {courses : Sheet .courses} {people : Sheet d}
  {c : Column}

theorem mem_values_iff {v : String} : v ∈ values people c ↔ ∃ r ∈ people.toList, r.get c = v := List.mem_map

theorem fromPairings_eq_nil (hcourse : ∀ r ∈ pairings.toList, r.get .courseId ∈ values courses .courseId)
    (huid : ∀ r ∈ pairings.toList, r.get .ldapUid ∈ values people .ldapUid) :
    fromPairings term pairings courses people = [] := by
  rw [fromPairings, List.flatMap_eq_nil_iff]
  intro r hr
  have hcourse := List.contains_iff_mem.2 (hcourse r hr)
  have huid := List.contains_iff_mem.2 (huid r hr)
  simp only [hcourse, huid, Bool.not_true, Bool.and_false, Bool.false_eq_true, if_false, if_true, List.append_nil]

theorem unpaired_eq_nil (hpaired : ∀ uid ∈ values people .ldapUid, uid ∈ values pairings .ldapUid) :
    unpaired people pairings = [] := by
  rw [unpaired, List.map_eq_nil_iff, List.filter_eq_nil_iff]
  intro uid huid
  rw [List.contains_iff_mem.2 (hpaired uid huid)]
  exact Bool.false_ne_true

/-- The message about a course that nobody teaches. -/
theorem message_untaught (course : String) : Dangling.message ⟨.courseId, course, .courses, .courseInstructors⟩ =
    s!"COURSE_ID {course} found in courses but not course_instructors" := by
  have hlead : "COURSE_ID" ++ " " = "COURSE_ID " := rfl
  have htail : " found in " ++ "courses" ++ " but not " ++ "course_instructors" =
      " found in courses but not course_instructors" := rfl
  show "COURSE_ID" ++ " " ++ course ++ " found in " ++ "courses" ++ " but not " ++ "course_instructors" =
    "COURSE_ID " ++ course ++ " found in courses but not course_instructors"
  rw [← htail, ← hlead]
  simp only [String.append_assoc]

/-- The messages about different courses differ. -/
theorem nodup_untaught_messages {l : List String} (h : l.Nodup) :
    (l.map fun course => s!"COURSE_ID {course} found in courses but not course_instructors").Nodup := by
  refine h.map fun a b heq => ?_
  have htexts : "COURSE_ID " ++ a ++ " found in courses but not course_instructors" =
    "COURSE_ID " ++ b ++ " found in courses but not course_instructors" := heq
  have hparts := congrArg String.toList htexts
  simp only [String.toList_append] at hparts
  exact String.toList_inj.1 (List.append_cancel_left (List.append_cancel_right hparts))

end Integrity

namespace Publication

open Integrity

variable {σ : Type} {h : Handler services σ} {s : σ} {rows : List (Row .sisImport)} {courses : Sheet .courses}
  {es : List Enrollment} {term course uid : String}

/-! ## Instructors -/

section Instructors

variable (hrows : ∀ r ∈ rows, '-' ∉ (r.get .ldapUid).toList)
include hrows

/-- A column of the pairings has the texts of the rows with an instructor. -/
theorem mem_values_courseInstructorsOf {c : Column} {text : Row .sisImport → String} {v : String}
    (htext : ∀ r, (pairing .courseInstructors (r.get .courseId) (instructorUid r)).get c = text r) :
    v ∈ values (courseInstructorsOf rows) c ↔ ∃ r ∈ taught rows, text r = v := by
  simp only [mem_values_iff, mem_courseInstructorsOf hrows]
  constructor
  · rintro ⟨_, ⟨r, hr, rfl⟩, rfl⟩
    exact ⟨r, hr, (htext r).symm⟩
  · rintro ⟨r, hr, rfl⟩
    exact ⟨_, ⟨r, hr, rfl⟩, htext r⟩

theorem fromPairings_courseInstructorsOf (role : String) :
    fromPairings term (courseInstructorsOf rows) (coursesOf rows) (instructorsOf role rows) = [] := by
  refine fromPairings_eq_nil (fun p hp => ?_) fun p hp => ?_
  · obtain ⟨r, hr, rfl⟩ := (mem_courseInstructorsOf hrows).1 hp
    rw [get_pairing_courseId (by decide), values_coursesOf, mem_distinct]
    exact List.mem_map_of_mem (mem_taught_iff.1 hr).1
  · obtain ⟨r, hr, rfl⟩ := (mem_courseInstructorsOf hrows).1 hp
    rw [get_pairing_ldapUid (by decide), values_instructorsOf, mem_distinct]
    exact List.mem_map_of_mem hr

theorem unpaired_instructorsOf (role : String) :
    unpaired (instructorsOf role rows) (courseInstructorsOf rows) = [] := by
  refine unpaired_eq_nil fun uid huid => ?_
  rw [values_instructorsOf, mem_distinct, List.mem_map] at huid
  exact (mem_values_courseInstructorsOf hrows fun _ => get_pairing_ldapUid (by decide) _ _).2 huid

end Instructors

/-! ## Students -/

section Students

variable (hes : ∀ e ∈ es, '-' ∉ e.uid.toList)
include hes

theorem fromPairings_courseStudentsOf :
    fromPairings term (courseStudentsOf courses es) courses (studentsOf courses es) = [] := by
  refine fromPairings_eq_nil (fun p hp => ?_) fun p hp => ?_
  · obtain ⟨e, -, course, hcourse, rfl⟩ := (mem_courseStudentsOf hes).1 hp
    rw [get_pairing_courseId (by decide)]
    exact mem_values_of_mem_coursesOfSection hcourse
  · obtain ⟨e, he, course, hcourse, rfl⟩ := (mem_courseStudentsOf hes).1 hp
    rw [get_pairing_ldapUid (by decide), values_studentsOf, mem_distinct]
    exact List.mem_map_of_mem (mem_relevant_iff.2 ⟨he, course, hcourse⟩)

theorem unpaired_studentsOf : unpaired (studentsOf courses es) (courseStudentsOf courses es) = [] := by
  refine unpaired_eq_nil fun uid huid => ?_
  rw [values_studentsOf, mem_distinct, List.mem_map] at huid
  obtain ⟨e, he, rfl⟩ := huid
  obtain ⟨he, course, hcourse⟩ := mem_relevant_iff.1 he
  exact mem_values_iff.2 ⟨_, (mem_courseStudentsOf hes).2 ⟨e, he, course, hcourse, rfl⟩,
    get_pairing_ldapUid (by decide) _ _⟩

end Students

/-! ## Supervisors -/

theorem fromPairings_courseSupervisorsOf (rows : List (Row .sisImport)) (supervisors : Sheet .supervisors) :
    fromPairings term (courseSupervisorsOf rows supervisors) (coursesOf rows) supervisors = [] := by
  refine fromPairings_eq_nil (fun p hp => ?_) fun p hp => ?_
  · obtain ⟨r, hr, supervisor, -, rfl⟩ := exists_of_mem_courseSupervisorsOf hp
    rw [get_supervision_courseId, values_coursesOf, mem_distinct]
    exact List.mem_map_of_mem hr
  · obtain ⟨r, -, supervisor, hsupervisor, rfl⟩ := exists_of_mem_courseSupervisorsOf hp
    rw [get_supervision_ldapUid]
    exact List.mem_map_of_mem (mem_of_mem_supervisorsOfForm hsupervisor)

/-! ## The whole -/

/-- The only references that lead nowhere are those of courses that nobody teaches. -/
theorem dangling_attended (hrows : ∀ r ∈ rows, '-' ∉ (r.get .ldapUid).toList) (hes : ∀ e ∈ es, '-' ∉ e.uid.toList)
    (supervisors : Sheet .supervisors) (options : PublicationOptions) (term : String) :
    dangling ((ofRows rows supervisors options).attended es) term =
      untaught term (coursesOf rows) (courseInstructorsOf rows) := by
  show fromPairings term (courseInstructorsOf rows) (coursesOf rows) (instructorsOf options.role rows) ++
    untaught term (coursesOf rows) (courseInstructorsOf rows) ++
    unpaired (instructorsOf options.role rows) (courseInstructorsOf rows) ++
    fromPairings term (courseStudentsOf (coursesOf rows) es) (coursesOf rows) (studentsOf (coursesOf rows) es) ++
    unpaired (studentsOf (coursesOf rows) es) (courseStudentsOf (coursesOf rows) es) ++
    fromPairings term (courseSupervisorsOf rows supervisors) (coursesOf rows) supervisors = _
  rw [fromPairings_courseInstructorsOf hrows, unpaired_instructorsOf hrows, fromPairings_courseStudentsOf hes,
    unpaired_studentsOf hes, fromPairings_courseSupervisorsOf]
  simp only [List.nil_append, List.append_nil]

/-- A course of the term whose rows all lack an instructor. -/
def isVacant (rows : List (Row .sisImport)) (term course : String) : Bool :=
  CourseId.isOfTerm term course && rows.all fun r => decide (r.get .courseId = course → r.isBlankAt .ldapUid)

/-- Nobody teaches a course exactly when all of its rows lack an instructor. -/
theorem untaught_ofRows (hrows : ∀ r ∈ rows, '-' ∉ (r.get .ldapUid).toList) :
    untaught term courses (courseInstructorsOf rows) =
      ((values courses .courseId).filter (isVacant rows term)).map fun course =>
        ⟨.courseId, course, .courses, .courseInstructors⟩ := by
  rw [untaught]
  congr 2
  funext course
  rw [isVacant]
  congr 1
  rw [Bool.eq_iff_iff, Bool.not_eq_true', ← Bool.not_eq_true, List.contains_iff_mem,
    mem_values_courseInstructorsOf hrows fun _ => get_pairing_courseId (by decide) _ _]
  simp only [mem_taught_iff, List.all_eq_true, decide_eq_true_eq, not_exists, not_and]
  constructor
  · intro hnone r hr hcourse
    exact (Bool.not_eq_false _).mp fun hblank => hnone r ⟨hr, hblank⟩ hcourse
  · rintro hall r ⟨hr, hblank⟩ hcourse
    rw [hall r hr hcourse] at hblank
    cases hblank

/-- A check reports the vacant courses, each once. -/
theorem check_attended (hrows : ∀ r ∈ rows, '-' ∉ (r.get .ldapUid).toList) (hes : ∀ e ∈ es, '-' ∉ e.uid.toList)
    (supervisors : Sheet .supervisors) (options : PublicationOptions) (term : String) :
    check ((ofRows rows supervisors options).attended es) term =
      ((values (coursesOf rows) .courseId).filter (isVacant rows term)).map fun course =>
        s!"COURSE_ID {course} found in courses but not course_instructors" := by
  have hnodup : ((values (coursesOf rows) .courseId).filter (isVacant rows term)).Nodup := by
    rw [values_coursesOf]
    exact (nodup_distinct _).filter _
  calc check ((ofRows rows supervisors options).attended es) term
      = distinct ((untaught term (coursesOf rows) (courseInstructorsOf rows)).map Dangling.message) := by
        rw [check, dangling_attended hrows hes]
    _ = distinct (((values (coursesOf rows) .courseId).filter (isVacant rows term)).map fun course =>
          s!"COURSE_ID {course} found in courses but not course_instructors") := by
        rw [untaught_ofRows hrows, List.map_map]
        exact congrArg distinct (List.map_congr_left fun course _ => message_untaught course)
    _ = _ := distinct_of_nodup (nodup_untaught_messages hnodup)

/-- **Built sheets refer to each other.** Where no campus ID of the merged rows or of the reply has a `-`, a publication
is built from whatever the source replies, one course for each course ID. A check of it reports each course of the term
whose evaluated rows all lack an instructor, in the order of the courses, and nothing else. -/
theorem build_references (merged : Sheet .sisImport) (supervisors : Sheet .supervisors) (options : PublicationOptions)
    (term : String) (reply : Except String (List Enrollment))
    (hreply : Replies h s options.term (sections (coursesOf (evaluated merged))) reply)
    (hrows : ∀ r ∈ merged.toList, '-' ∉ (r.get .ldapUid).toList) (hes : ∀ e ∈ answered reply, '-' ∉ e.uid.toList) :
    ∃ p, ((build merged supervisors none options).run h s).result = .ok p ∧
      values p.courses .courseId = distinct ((evaluated merged).map fun r => r.get .courseId) ∧
      check p term = ((values p.courses .courseId).filter (isVacant (evaluated merged) term)).map fun course =>
        s!"COURSE_ID {course} found in courses but not course_instructors" := by
  have hevaluated : ∀ r ∈ evaluated merged, '-' ∉ (r.get .ldapUid).toList := fun r hr =>
    hrows r (Sheet.mem_sortedRows.1 (List.mem_filter.1 hr).1)
  obtain ⟨t, ht⟩ := yields_build supervisors none hreply
  exact ⟨_, ht.result, values_coursesOf _, check_attended hevaluated hes supervisors options term⟩

namespace VacantCourse

/-- A row to be evaluated. -/
def row (course uid : String) : Row .sisImport :=
  .ofPairs _ [(.courseId, course), (.ldapUid, uid), (.deptForm, "MATH"), (.evaluate, "Y")]

/-- One course with an instructor and one without. -/
def confirmed : List (Row .sisImport) := [row "2015-B-34821" " 100", row "2015-B-34822" " "]

def merged : Sheet .sisImport := .ofRows _ confirmed

theorem evaluated_merged : evaluated merged = confirmed :=
  (evaluated_ofRows (by decide +kernel)).trans (by decide +kernel)

def campus : PublicationOptions := ⟨"2015-B", "Campus", "Instructor"⟩

/-- A student of the course without an instructor. -/
def student : Enrollment := { ccn := "34822", uid := "200" }

def world : World := { now := .sinceEpoch 0 0, campus := { enrollments := [student] } }

theorem replies : Replies World.handler world "2015-B" (sections (coursesOf (evaluated merged))) (.ok [student]) := by
  have hcourse : "2015-B-34822" ∈ coursesOfSection (coursesOf confirmed) "34822" := by decide +kernel
  have hasked : (sections (coursesOf (evaluated merged))).contains student.ccn = true := by
    rw [evaluated_merged]
    exact List.contains_iff_mem.2 (mem_sections_of_mem_coursesOfSection hcourse)
  have hfound : world.campus.enrollmentsOf (sections (coursesOf (evaluated merged))) = [student] :=
    List.filter_eq_self.2 fun e he => List.mem_singleton.1 he ▸ hasked
  have hreply := replies_memory world "2015-B" (sections (coursesOf (evaluated merged)))
  rwa [hfound] at hreply

end VacantCourse

open VacantCourse in
/-- The course without an instructor is reported, although it has a student. -/
theorem build_references_vacant :
    Replies World.handler world "2015-B" (sections (coursesOf (evaluated merged))) (.ok [student]) ∧
      ∃ p, ((build merged {} none campus).run World.handler world).result = .ok p ∧
        check p "2015-B" = ["COURSE_ID 2015-B-34822 found in courses but not course_instructors"] := by
  obtain ⟨p, hrun, hcourses, hcheck⟩ :=
    build_references merged {} campus "2015-B" (.ok [student]) replies (by decide +kernel) (by decide +kernel)
  refine ⟨replies, p, hrun, ?_⟩
  rw [hcheck, hcourses, evaluated_merged]
  decide +kernel

end Publication

end Registrar
