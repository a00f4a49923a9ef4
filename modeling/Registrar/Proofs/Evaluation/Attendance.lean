import Registrar.Proofs.Evaluation.Publication
import Registrar.Proofs.World.Exchanges

/-!
# Students of published courses

A publication asks once for the students of the sections that its courses state, and not at all where there is none
(`exchanges_build`). The enrollments of the reply are joined with the courses through the section: every pair of a
course and a student of its section gets one row, as far as campus IDs have no `-`, and every such student one record,
which says what the first enrollment in the section of a course says (`joinsEnrollments_attended`). A refused query
leaves these two sheets empty and the others as they are (`build_joins_enrollments`).

A course whose ID names no section has no students, whatever is replied (`unsectioned_unattended`).
-/

namespace Registrar.Publication

variable {σ : Type} {h : Handler services σ} {s : σ} {courses : Sheet .courses} {es : List Enrollment}
  {e : Enrollment} {course uid : String}

/-! ## What is asked -/

/-- The sections that courses state, blank ones left out, in ascending order and each once. -/
structure IsSections (courses : Sheet .courses) (ccns : List String) : Prop where
  ascending : ccns.Pairwise (· < ·)
  mem_iff : ∀ ccn, ccn ∈ ccns ↔ ∃ c ∈ courses.toList, c.isBlankAt .sectionId = false ∧ c.get .sectionId = ccn

theorem isSections_sections (courses : Sheet .courses) : IsSections courses (sections courses) where
  ascending := pairwise_lt_mergeSort_distinct _
  mem_iff := fun _ => mem_sections_iff

/-- The calls for the students of sections: one query, or none without a section. -/
def queries (term : String) (ccns : List String) : List Service := if ccns = [] then [] else [.enrollments term ccns]

theorem exchanges_withStudents {p : Publication} {term : String} {reply : Except String (List Enrollment)}
    (hreply : Replies h s term (sections p.courses) reply) :
    ((p.withStudents term).exchanges h s).map Exchange.call = queries term (sections p.courses) := by
  unfold withStudents queries
  by_cases hnone : sections p.courses = []
  · rw [hnone, if_pos rfl]
    rfl
  · obtain ⟨t, ht⟩ := hreply hnone
    simp only [List.isEmpty_iff, hnone, if_false]
    refine (congrArg (List.map Exchange.call) (Program.exchanges_ask_bind (Program.yields_ask ht))).trans ?_
    cases reply <;> rfl

theorem exchanges_build {merged : Sheet .sisImport} {options : PublicationOptions}
    {reply : Except String (List Enrollment)} (supervisors : Sheet .supervisors) (previous : Option PreviousTerm)
    (hreply : Replies h s options.term (sections (coursesOf (evaluated merged))) reply) :
    ((build merged supervisors previous options).exchanges h s).map Exchange.call =
      queries options.term (sections (coursesOf (evaluated merged))) := by
  have hasked : ∀ (p : Publication) (f : Publication → Action Publication),
      p.courses = coursesOf (evaluated merged) → p.courseStudents = {} → p.students = {} →
      (∀ q t, (f q).exchanges h t = []) →
      ((p.withStudents options.term >>= f).exchanges h s).map Exchange.call =
        queries options.term (sections (coursesOf (evaluated merged))) := by
    intro p f hcourses hpairings hstudents hf
    rw [← hcourses] at hreply ⊢
    obtain ⟨t, ht⟩ := yields_withStudents hpairings hstudents hreply
    rw [ht.exchanges_bind, hf, List.append_nil, exchanges_withStudents hreply]
  cases previous with
  | none => exact hasked (ofRows (evaluated merged) supervisors options) _ rfl rfl rfl fun _ _ => rfl
  | some previous =>
    exact hasked ((ofRows (evaluated merged) supervisors options).carryOver previous) _ rfl rfl rfl fun _ _ => rfl

/-! ## What is made of the reply -/

/-- The enrollment is in the section of the course. A course that states none has no enrollments. -/
def InSection (courses : Sheet .courses) (course : String) (e : Enrollment) : Prop :=
  ∃ c ∈ courses.toList, c.get .courseId = course ∧ c.isBlankAt .sectionId = false ∧ c.get .sectionId = e.ccn

theorem mem_coursesOfSection_iff_inSection : course ∈ coursesOfSection courses e.ccn ↔ InSection courses course e :=
  mem_coursesOfSection_iff

/-- The enrollment is the first one of a student that is in the section of a course. -/
def IsFirstOf (courses : Sheet .courses) (es : List Enrollment) (uid : String) (e : Enrollment) : Prop :=
  ∃ before after, es = before ++ e :: after ∧ e.uid = uid ∧ (∃ course, InSection courses course e) ∧
    ∀ d ∈ before, d.uid = uid → ¬ ∃ course, InSection courses course d

/-- The record says of a student what an enrollment says. -/
structure Describes (e : Enrollment) (r : Row .students) : Prop where
  ldapUid : r.get .ldapUid = e.uid
  sisId : r.get .sisId = e.sisId
  firstName : r.get .firstName = e.firstName
  lastName : r.get .lastName = e.lastName
  emailAddress : r.get .emailAddress = e.email

theorem describes_studentOf (e : Enrollment) : Describes e (studentOf e) := by
  constructor
  all_goals
    simp (disch := decide) only [studentOf, Row.ofPairs, List.foldl_cons, List.foldl_nil, Row.get_set_of_ne,
      Row.get_set_self]

/-- The courses and people of pairings. -/
def pairsOf (s : Sheet .courseStudents) : List (String × String) :=
  s.toList.map fun r => (r.get .courseId, r.get .ldapUid)

/-- The sheets of students hold one row for each pair of a course and a student with an enrollment in its section, and
one record for each student of such a pair, which says what the first of these enrollments says. -/
structure JoinsEnrollments (courses : Sheet .courses) (es : List Enrollment) (p : Publication) : Prop where
  nodup_pairs : (pairsOf p.courseStudents).Nodup
  mem_pairs_iff : ∀ course uid, (course, uid) ∈ pairsOf p.courseStudents ↔
    ∃ e ∈ es, e.uid = uid ∧ InSection courses course e
  nodup_students : (Integrity.values p.students .ldapUid).Nodup
  mem_students_iff : ∀ uid, uid ∈ Integrity.values p.students .ldapUid ↔
    ∃ e ∈ es, e.uid = uid ∧ ∃ course, InSection courses course e
  described : ∀ r ∈ p.students.toList, ∃ e, IsFirstOf courses es (r.get .ldapUid) e ∧ Describes e r

/-- A pairing tells its key, and keys are distinct. -/
theorem nodup_pairsOf_courseStudentsOf (courses : Sheet .courses) (es : List Enrollment) :
    (pairsOf (courseStudentsOf courses es)).Nodup := by
  refine Sheet.nodup_map_toList (g := fun a => CourseId.pairKey a.1 a.2) fun x r hr => ?_
  rw [courseStudentsOf_eq] at hr
  obtain ⟨a, -, rfl, rfl⟩ := Sheet.exists_of_get?_enterAll hr
  rw [get_pairing_courseId (by decide), get_pairing_ldapUid (by decide)]

theorem mem_pairsOf_courseStudentsOf (hes : ∀ e ∈ es, '-' ∉ e.uid.toList) :
    (course, uid) ∈ pairsOf (courseStudentsOf courses es) ↔ ∃ e ∈ es, e.uid = uid ∧ InSection courses course e := by
  rw [pairsOf, List.mem_map]
  constructor
  · rintro ⟨r, hr, hpair⟩
    obtain ⟨e, he, course', hcourse, rfl⟩ := (mem_courseStudentsOf hes).1 hr
    rw [get_pairing_courseId (by decide), get_pairing_ldapUid (by decide)] at hpair
    cases hpair
    exact ⟨e, he, rfl, mem_coursesOfSection_iff.1 hcourse⟩
  · rintro ⟨e, he, rfl, hsection⟩
    refine ⟨pairing _ course e.uid, (mem_courseStudentsOf hes).2 ⟨e, he, course, mem_coursesOfSection_iff.2 hsection,
      rfl⟩, ?_⟩
    rw [get_pairing_courseId (by decide), get_pairing_ldapUid (by decide)]

theorem mem_values_studentsOf :
    uid ∈ Integrity.values (studentsOf courses es) .ldapUid ↔
      ∃ e ∈ es, e.uid = uid ∧ ∃ course, InSection courses course e := by
  rw [values_studentsOf, mem_distinct, List.mem_map]
  simp only [mem_relevant_iff, mem_coursesOfSection_iff_inSection]
  constructor
  · rintro ⟨e, ⟨he, hsection⟩, huid⟩
    exact ⟨e, he, huid, hsection⟩
  · rintro ⟨e, he, huid, hsection⟩
    exact ⟨e, ⟨he, hsection⟩, huid⟩

theorem exists_isFirstOf_of_mem_studentsOf {r : Row .students} (hr : r ∈ (studentsOf courses es).toList) :
    ∃ e, IsFirstOf courses es (r.get .ldapUid) e ∧ Describes e r := by
  obtain ⟨x, hx⟩ := Sheet.mem_toList_iff.1 hr
  rw [studentsOf, Sheet.get?_foldl_insertNew, relevant, List.find?_filter, Option.map_eq_some_iff] at hx
  obtain ⟨e, hfound, rfl⟩ := hx
  obtain ⟨hmatch, before, after, hsplit, hbefore⟩ := List.find?_eq_some_iff_append.1 hfound
  simp only [Bool.not_eq_true', decide_eq_true_eq, decide_eq_false_iff_not, List.isEmpty_eq_false_iff_exists_mem,
    mem_coursesOfSection_iff_inSection, not_and] at hmatch hbefore
  obtain ⟨hsection, rfl⟩ := hmatch
  refine ⟨e, ⟨before, after, hsplit, ?_, hsection, fun d hd huid hother => ?_⟩, describes_studentOf e⟩
  · rw [get_studentOf_ldapUid]
  · rw [get_studentOf_ldapUid] at huid
    exact hbefore d hd hother huid

theorem joinsEnrollments_attended (hes : ∀ e ∈ es, '-' ∉ e.uid.toList) (p : Publication) :
    JoinsEnrollments p.courses es (p.attended es) where
  nodup_pairs := nodup_pairsOf_courseStudentsOf p.courses es
  mem_pairs_iff := fun _ _ => mem_pairsOf_courseStudentsOf hes
  nodup_students := by
    show (Integrity.values (studentsOf p.courses es) .ldapUid).Nodup
    rw [values_studentsOf]
    exact nodup_distinct _
  mem_students_iff := fun _ => mem_values_studentsOf
  described := fun _ => exists_isFirstOf_of_mem_studentsOf

/-! ## The whole -/

theorem courses_carried (rows : List (Row .sisImport)) (supervisors : Sheet .supervisors)
    (options : PublicationOptions) (previous : Option PreviousTerm) :
    ((ofRows rows supervisors options).carried previous).courses = coursesOf rows := by
  cases previous <;> rfl

/-- **Enrollments are joined with courses through their sections.** A publication asks one query, for the sections that
its courses state, and none where they state none. From a reply whose campus IDs have no `-` it takes one row for each
pair of a course that states a section and a student of this section, and one record for each of these students, from
the first enrollment in the section of a course. Where the query is refused instead, it has neither rows nor records,
and is the same in all other sheets. -/
theorem build_joins_enrollments (merged : Sheet .sisImport) (supervisors : Sheet .supervisors)
    (previous : Option PreviousTerm) (options : PublicationOptions) (es : List Enrollment) (reason : String) {s t : σ}
    (hes : ∀ e ∈ es, '-' ∉ e.uid.toList)
    (hanswered : Replies h s options.term (sections (coursesOf (evaluated merged))) (.ok es))
    (hrefused : Replies h t options.term (sections (coursesOf (evaluated merged))) (.error reason)) :
    let program := build merged supervisors previous options
    let courses := coursesOf (evaluated merged)
    ∃ ccns, IsSections courses ccns ∧
      (program.exchanges h s).map Exchange.call = queries options.term ccns ∧
      (program.exchanges h t).map Exchange.call = queries options.term ccns ∧
      ∃ p, (program.run h s).result = .ok p ∧ p.courses = courses ∧ JoinsEnrollments courses es p ∧
        (program.run h t).result = .ok { p with courseStudents := {}, students := {} } := by
  intro program courses
  obtain ⟨s', hs⟩ := yields_build supervisors previous hanswered
  obtain ⟨t', ht⟩ := yields_build supervisors previous hrefused
  have hcourses := courses_carried (evaluated merged) supervisors options previous
  refine ⟨sections courses, isSections_sections courses, exchanges_build supervisors previous hanswered,
    exchanges_build supervisors previous hrefused, _, hs.result, hcourses, ?_, ht.result⟩
  have hjoins := joinsEnrollments_attended hes ((ofRows (evaluated merged) supervisors options).carried previous)
  rwa [hcourses] at hjoins

namespace SharedSection

/-- A course to be evaluated. -/
def row (course : String) : Row .sisImport := .ofPairs _ [(.courseId, course), (.evaluate, "Y")]

/-- Two courses of one section, and one whose ID names no section. -/
def rows : List (Row .sisImport) := [row "2015-B-34821", row "2015-B-34821_GSI", row "LABS"]

def merged : Sheet .sisImport := .ofRows _ rows

theorem evaluated_merged : evaluated merged = rows := (evaluated_ofRows (by decide +kernel)).trans (by decide +kernel)

def campus : PublicationOptions := ⟨"2015-B", "Campus", "Instructor"⟩

/-- A student of the section, twice and under two names, and enrollments that were not asked for: one of another
section, and one of no section. -/
def replied : List Enrollment :=
  [{ ccn := "99999", uid := "300" }, { ccn := "34821", uid := "200", firstName := "Ann" },
    { ccn := "34821", uid := "200", firstName := "Anna" }, { ccn := "", uid := "400" }]

def answering : World := { now := .sinceEpoch 0 0, campus := { enrollments := replied, unfiltered := true } }

def refusing : World := { now := .sinceEpoch 0 0, campus := { failure := some "down" } }

theorem replies_answering (ccns : List String) : Replies World.handler answering "2015-B" ccns (.ok replied) :=
  replies_memory answering "2015-B" ccns

theorem replies_refusing (ccns : List String) : Replies World.handler refusing "2015-B" ccns (.error "down") :=
  replies_memory refusing "2015-B" ccns

end SharedSection

open SharedSection in
/-- Both courses of the section have the student, with the first name that comes first. -/
theorem build_joins_enrollments_shared :
    let courses := coursesOf (evaluated merged)
    (∀ e ∈ replied, '-' ∉ e.uid.toList) ∧
      Replies World.handler answering "2015-B" (sections courses) (.ok replied) ∧
      Replies World.handler refusing "2015-B" (sections courses) (.error "down") ∧
      ∃ p, ((build merged {} none campus).run World.handler answering).result = .ok p ∧
        JoinsEnrollments courses replied p ∧ ("2015-B-34821", "200") ∈ pairsOf p.courseStudents ∧
        ("2015-B-34821_GSI", "200") ∈ pairsOf p.courseStudents ∧ "300" ∉ Integrity.values p.students .ldapUid ∧
        ((build merged {} none campus).run World.handler refusing).result =
          .ok { p with courseStudents := {}, students := {} } := by
  intro courses
  have hplain : ∀ e ∈ replied, '-' ∉ e.uid.toList := by decide +kernel
  obtain ⟨-, -, -, -, p, hrun, -, hjoins, hrefused⟩ := build_joins_enrollments merged {} none campus replied "down"
    hplain (replies_answering (sections courses)) (replies_refusing (sections courses))
  -- the enrollment of "300" is in a section that no course states
  have hother : ∀ e ∈ replied, e.uid = "300" →
      ∀ c ∈ (coursesOf rows).toList, c.isBlankAt .sectionId = false → c.get .sectionId ≠ e.ccn := by decide +kernel
  refine ⟨hplain, replies_answering _, replies_refusing _, p, hrun, hjoins, (hjoins.mem_pairs_iff _ _).2 ?_,
    (hjoins.mem_pairs_iff _ _).2 ?_, fun hmem => ?_, hrefused⟩
  · rw [evaluated_merged]
    exact ⟨{ ccn := "34821", uid := "200", firstName := "Ann" }, by decide, rfl, by unfold InSection; decide +kernel⟩
  · rw [evaluated_merged]
    exact ⟨{ ccn := "34821", uid := "200", firstName := "Ann" }, by decide, rfl, by unfold InSection; decide +kernel⟩
  · obtain ⟨e, he, huid, course, hsection⟩ := (hjoins.mem_students_iff _).1 hmem
    rw [evaluated_merged] at hsection
    obtain ⟨c, hc, -, hstated, hccn⟩ := hsection
    exact hother e he huid c hc hstated hccn

open SharedSection in
/-- The course whose ID names no section has a blank one, as the last enrollment has, but it has no students. -/
theorem unsectioned_unattended :
    (∀ e ∈ replied, '-' ∉ e.uid.toList) ∧
      Replies World.handler answering "2015-B" (sections (coursesOf (evaluated merged))) (.ok replied) ∧
      ∃ p, ((build merged {} none campus).run World.handler answering).result = .ok p ∧
        (∃ c ∈ p.courses.toList, c.get .courseId = "LABS" ∧ ∃ e ∈ replied, e.uid = "400" ∧ c.get .sectionId = e.ccn) ∧
        ("LABS", "400") ∉ pairsOf p.courseStudents ∧ "400" ∉ Integrity.values p.students .ldapUid := by
  obtain ⟨t, ht⟩ : ∃ t, (build merged {} none campus).Yields World.handler answering _ t :=
    yields_build {} none (replies_answering _)
  refine ⟨by decide +kernel, replies_answering _, _, ht.result, ?_⟩
  rw [evaluated_merged]
  decide +kernel

end Registrar.Publication
