import Registrar.Evaluation.Publication

/-!
# References between sheets

The pairing sheets of a publication refer to courses and people, and every course, instructor and student must be
paired. `Integrity.check` lists the references that lead nowhere, each once. Courses are looked for only in the term of
the publication, since pairings carried over point at courses of earlier terms.
-/

namespace Registrar

/-- A reference that leads nowhere: what is found in one sheet is not in another. -/
structure Dangling where
  column : Column
  value : String
  foundIn : Kind
  missingIn : Kind
  deriving DecidableEq

/-- The message about a reference that leads nowhere. -/
def Dangling.message (d : Dangling) : String :=
  s!"{d.column.header} {d.value} found in {d.foundIn.exportName} but not {d.missingIn.exportName}"

namespace Integrity

/-- The texts of a column of a sheet. -/
def values {k : Kind} (s : Sheet k) (c : Column) : List String := s.toList.map fun r => r.get c

/-- Every reference of pairings to a course of the term and to a person, row by row. -/
def fromPairings {k d : Kind} (term : String) (pairings : Sheet k) (courses : Sheet .courses) (people : Sheet d) :
    List Dangling :=
  pairings.toList.flatMap fun r =>
    let course := r.get .courseId
    let uid := r.get .ldapUid
    (if CourseId.isOfTerm term course && !(values courses .courseId).contains course then
      [⟨.courseId, course, k, .courses⟩] else []) ++
    if (values people .ldapUid).contains uid then [] else [⟨.ldapUid, uid, k, d⟩]

/-- Every person that no pairing refers to. -/
def unpaired {k d : Kind} (people : Sheet d) (pairings : Sheet k) : List Dangling :=
  ((values people .ldapUid).filter fun uid => !(values pairings .ldapUid).contains uid).map fun uid =>
    ⟨.ldapUid, uid, d, k⟩

/-- Every course of the term that nobody teaches. -/
def untaught (term : String) (courses : Sheet .courses) (pairings : Sheet .courseInstructors) : List Dangling :=
  ((values courses .courseId).filter fun course =>
    CourseId.isOfTerm term course && !(values pairings .courseId).contains course).map fun course =>
    ⟨.courseId, course, .courses, .courseInstructors⟩

/-- The references of a publication that lead nowhere, in the order of the checks. -/
def dangling (p : Publication) (term : String) : List Dangling :=
  fromPairings term p.courseInstructors p.courses p.instructors ++
  untaught term p.courses p.courseInstructors ++
  unpaired p.instructors p.courseInstructors ++
  fromPairings term p.courseStudents p.courses p.students ++
  unpaired p.students p.courseStudents ++
  fromPairings term p.courseSupervisors p.courses p.supervisors

/-- The messages about references that lead nowhere, each once. -/
def check (p : Publication) (term : String) : List String := distinct ((dangling p term).map Dangling.message)

/-- The log lines about the outcome of a check. -/
def notes (messages : List String) : List LogLine :=
  if messages.isEmpty then [.info "Cross-sheet validation passed"]
  else .warn "Validation failed!" :: messages.map fun message => .warn s!"  {message}"

end Integrity

end Registrar
