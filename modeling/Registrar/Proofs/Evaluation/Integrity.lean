import Registrar.Evaluation.Integrity
import Registrar.Proofs.Batches
import Registrar.Proofs.CourseId

/-!
# What a check reports

`Misses` says when what stands in one sheet of a publication is missing from another. A check lists exactly these
references (`mem_dangling_iff`). A message tells the reference that it is about (`Dangling.message_injective`), so a
check has the message about a reference exactly where the reference leads nowhere, and every message once
(`check_reports`).
-/

namespace Registrar

/-! ## Messages -/

namespace Dangling

theorem space_not_mem_header (c : Column) : ' ' ∉ c.header.toList := by
  have h : ∀ c ∈ Column.all, ' ' ∉ c.header.toList := by decide +kernel
  exact h c (Column.mem_all c)

theorem space_not_mem_exportName (k : Kind) : ' ' ∉ k.exportName.toList := by cases k <;> decide

theorem exportName_injective {k d : Kind} (h : k.exportName = d.exportName) : k = d := by
  cases k <;> cases d <;> first | rfl | exact absurd h (by decide)

/-- The words of a message are parted by blanks; only the text that is missing may have some of its own. -/
theorem toList_message (x : Dangling) :
    x.message.toList =
      (x.column.header.toList ++ ' ' :: (x.value.toList ++ " found in".toList) ++
        ' ' :: x.foundIn.exportName.toList ++ " but not".toList) ++ ' ' :: x.missingIn.exportName.toList := by
  show (x.column.header ++ " " ++ x.value ++ " found in " ++ x.foundIn.exportName ++ " but not " ++
    x.missingIn.exportName).toList = _
  simp

theorem message_injective {x y : Dangling} (h : x.message = y.message) : x = y := by
  have htexts := congrArg String.toList h
  rw [toList_message, toList_message] at htexts
  obtain ⟨hfront, hmissing⟩ :=
    Text.append_sep_inj_last (space_not_mem_exportName _) (space_not_mem_exportName _) htexts
  obtain ⟨hfront, hfound⟩ := Text.append_sep_inj_last (space_not_mem_exportName _) (space_not_mem_exportName _)
    (List.append_cancel_right hfront)
  obtain ⟨hheader, hvalue⟩ := Text.append_sep_inj (space_not_mem_header _) (space_not_mem_header _) hfront
  obtain ⟨column, value, foundIn, missingIn⟩ := x
  obtain ⟨column', value', foundIn', missingIn'⟩ := y
  obtain rfl := Column.header_injective (String.toList_inj.1 hheader)
  obtain rfl := String.toList_inj.1 (List.append_cancel_right hvalue)
  obtain rfl := exportName_injective (String.toList_inj.1 hfound)
  obtain rfl := exportName_injective (String.toList_inj.1 hmissing)
  rfl

end Dangling

namespace Integrity

variable {k d : Kind} {p : Publication} {term : String} {pairings : Sheet k} {people : Sheet d}
  {courses : Sheet .courses} {x : Dangling}

/-! ## References that lead nowhere -/

/-- What is found under a column of one sheet is not found under it in another. -/
structure Lacks (x : Dangling) (c : Column) (s : Sheet k) (t : Sheet d) : Prop where
  column : x.column = c
  foundIn : x.foundIn = k
  missingIn : x.missingIn = d
  found : ∃ r ∈ s.toList, r.get c = x.value
  missing : ∀ r ∈ t.toList, r.get c ≠ x.value

/-- A reference of a publication that leads nowhere. Courses count as far as their IDs name the term. -/
inductive Misses (p : Publication) (term : String) (x : Dangling) : Prop
  /-- A course of instructors is not published. -/
  | taughtCourse (hterm : CourseId.NamesTerm term x.value) (hx : Lacks x .courseId p.courseInstructors p.courses)
  /-- A course of students is not published. -/
  | attendedCourse (hterm : CourseId.NamesTerm term x.value) (hx : Lacks x .courseId p.courseStudents p.courses)
  /-- A course of supervisors is not published. -/
  | supervisedCourse (hterm : CourseId.NamesTerm term x.value) (hx : Lacks x .courseId p.courseSupervisors p.courses)
  /-- A published course has no instructor. -/
  | vacantCourse (hterm : CourseId.NamesTerm term x.value) (hx : Lacks x .courseId p.courses p.courseInstructors)
  /-- The instructor of a course is not published. -/
  | instructor (hx : Lacks x .ldapUid p.courseInstructors p.instructors)
  /-- A published instructor has no course. -/
  | idleInstructor (hx : Lacks x .ldapUid p.instructors p.courseInstructors)
  /-- The student of a course is not published. -/
  | student (hx : Lacks x .ldapUid p.courseStudents p.students)
  /-- A published student has no course. -/
  | idleStudent (hx : Lacks x .ldapUid p.students p.courseStudents)
  /-- The supervisor of a course is not published. -/
  | supervisor (hx : Lacks x .ldapUid p.courseSupervisors p.supervisors)

theorem lacks_iff {c : Column} {s : Sheet k} {t : Sheet d} :
    Lacks x c s t ↔ ∃ v, (v ∈ values s c ∧ v ∉ values t c) ∧ (⟨c, v, k, d⟩ : Dangling) = x := by
  constructor
  · rintro ⟨rfl, rfl, rfl, hfound, hmissing⟩
    refine ⟨x.value, ⟨List.mem_map.2 hfound, fun hmem => ?_⟩, rfl⟩
    obtain ⟨r, hr, hvalue⟩ := List.mem_map.1 hmem
    exact hmissing r hr hvalue
  · rintro ⟨v, ⟨hfound, hmissing⟩, rfl⟩
    exact ⟨rfl, rfl, rfl, List.mem_map.1 hfound, fun r hr hvalue => hmissing (List.mem_map.2 ⟨r, hr, hvalue⟩)⟩

/-- A person whom no pairing refers to is one of the sheet of persons only. -/
theorem mem_unpaired_iff : x ∈ unpaired people pairings ↔ Lacks x .ldapUid people pairings := by
  simp only [unpaired, List.mem_map, List.mem_filter, Bool.not_eq_true', List.contains_eq_mem,
    decide_eq_false_iff_not, lacks_iff]

/-- A course that nobody teaches is one of the term in the sheet of courses only. -/
theorem mem_untaught_iff {pairings : Sheet .courseInstructors} :
    x ∈ untaught term courses pairings ↔ CourseId.NamesTerm term x.value ∧ Lacks x .courseId courses pairings := by
  simp only [untaught, List.mem_map, List.mem_filter, Bool.and_eq_true, Bool.not_eq_true', List.contains_eq_mem,
    decide_eq_false_iff_not, CourseId.isOfTerm_iff, lacks_iff]
  constructor
  · rintro ⟨course, ⟨hfound, hterm, hmissing⟩, rfl⟩
    exact ⟨hterm, course, ⟨hfound, hmissing⟩, rfl⟩
  · rintro ⟨hterm, course, ⟨hfound, hmissing⟩, rfl⟩
    exact ⟨course, ⟨hfound, hterm, hmissing⟩, rfl⟩

/-- What pairings refer to in vain are courses of the term and persons. -/
theorem mem_fromPairings_iff :
    x ∈ fromPairings term pairings courses people ↔
      CourseId.NamesTerm term x.value ∧ Lacks x .courseId pairings courses ∨ Lacks x .ldapUid pairings people := by
  simp only [fromPairings, List.mem_flatMap, List.mem_append, List.contains_eq_mem, Bool.and_eq_true,
    Bool.not_eq_true', decide_eq_false_iff_not, decide_eq_true_eq, List.mem_ite_nil_right, List.mem_ite_nil_left,
    List.mem_singleton, CourseId.isOfTerm_iff]
  constructor
  · rintro ⟨r, hr, ⟨⟨hterm, hmissing⟩, rfl⟩ | ⟨hmissing, rfl⟩⟩
    · exact .inl ⟨hterm, lacks_iff.2 ⟨_, ⟨List.mem_map_of_mem hr, hmissing⟩, rfl⟩⟩
    · exact .inr (lacks_iff.2 ⟨_, ⟨List.mem_map_of_mem hr, hmissing⟩, rfl⟩)
  · rintro (⟨hterm, hx⟩ | hx)
    · obtain ⟨course, ⟨hfound, hmissing⟩, rfl⟩ := lacks_iff.1 hx
      obtain ⟨r, hr, rfl⟩ := List.mem_map.1 hfound
      exact ⟨r, hr, .inl ⟨⟨hterm, hmissing⟩, rfl⟩⟩
    · obtain ⟨uid, ⟨hfound, hmissing⟩, rfl⟩ := lacks_iff.1 hx
      obtain ⟨r, hr, rfl⟩ := List.mem_map.1 hfound
      exact ⟨r, hr, .inr ⟨hmissing, rfl⟩⟩

/-- What the checks find is what is missing. -/
theorem mem_dangling_iff : x ∈ dangling p term ↔ Misses p term x := by
  simp only [dangling, List.mem_append, mem_fromPairings_iff, mem_untaught_iff, mem_unpaired_iff]
  constructor
  · rintro ((((((⟨hterm, hx⟩ | hx) | ⟨hterm, hx⟩) | hx) | ⟨hterm, hx⟩ | hx) | hx) | ⟨hterm, hx⟩ | hx)
    · exact .taughtCourse hterm hx
    · exact .instructor hx
    · exact .vacantCourse hterm hx
    · exact .idleInstructor hx
    · exact .attendedCourse hterm hx
    · exact .student hx
    · exact .idleStudent hx
    · exact .supervisedCourse hterm hx
    · exact .supervisor hx
  · intro hx
    cases hx with
    | taughtCourse hterm hx => exact .inl (.inl (.inl (.inl (.inl (.inl ⟨hterm, hx⟩)))))
    | instructor hx => exact .inl (.inl (.inl (.inl (.inl (.inr hx)))))
    | vacantCourse hterm hx => exact .inl (.inl (.inl (.inl (.inr ⟨hterm, hx⟩))))
    | idleInstructor hx => exact .inl (.inl (.inl (.inr hx)))
    | attendedCourse hterm hx => exact .inl (.inl (.inr (.inl ⟨hterm, hx⟩)))
    | student hx => exact .inl (.inl (.inr (.inr hx)))
    | idleStudent hx => exact .inl (.inr hx)
    | supervisedCourse hterm hx => exact .inr (.inl ⟨hterm, hx⟩)
    | supervisor hx => exact .inr (.inr hx)

/-- **A check reports what is missing, and nothing else.** Whatever the sheets of a publication hold, a check of it
repeats no message. It has exactly the messages about references that lead nowhere, and the message about a reference
only if this one does; it has none exactly where nothing is missing. -/
theorem check_reports (p : Publication) (term : String) :
    (check p term).Nodup ∧
      (∀ message, message ∈ check p term ↔ ∃ x, Misses p term x ∧ x.message = message) ∧
      (∀ x : Dangling, x.message ∈ check p term ↔ Misses p term x) ∧
      (check p term = [] ↔ ∀ x, ¬ Misses p term x) := by
  have hmem : ∀ message, message ∈ check p term ↔ ∃ x, Misses p term x ∧ x.message = message := by
    intro message
    simp only [check, mem_distinct, List.mem_map, mem_dangling_iff]
  refine ⟨nodup_distinct _, hmem, fun x => ?_, ?_⟩
  · rw [hmem]
    constructor
    · rintro ⟨y, hy, hmessage⟩
      exact Dangling.message_injective hmessage ▸ hy
    · exact fun hx => ⟨x, hx, rfl⟩
  · rw [List.eq_nil_iff_forall_not_mem]
    constructor
    · exact fun hnone x hx => hnone x.message ((hmem _).2 ⟨x, hx, rfl⟩)
    · intro hnone message hmessage
      obtain ⟨x, hx, -⟩ := (hmem message).1 hmessage
      exact hnone x hx

end Integrity

end Registrar
