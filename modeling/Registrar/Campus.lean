import Registrar.Text.Blank

/-!
# People and enrollments

The campus feed knows persons by their campus ID and says who is enrolled in which section.
-/

namespace Registrar

/-- One person of the campus feed. -/
structure Person where
  /-- The campus ID. -/
  uid : String
  studentId : Option String := none
  firstName : String := ""
  lastName : String := ""
  email : Option String := none
  alternateEmail : Option String := none
  /-- The person has left. -/
  expired : Bool := false
  student : Bool := false
  deriving DecidableEq

/-- The SIS ID of a person without a student ID. -/
def uidReference (uid : String) : String := "UID:" ++ uid

/-- The SIS ID of a person: the student ID of a student who has one, a reference to the campus ID otherwise. -/
def Person.sisId (p : Person) : String :=
  match p.studentId.map Text.trim with
  | some id => if p.student && !id.isEmpty then id else uidReference p.uid
  | none => uidReference p.uid

/-- One student in one section. -/
structure Enrollment where
  /-- The control number of the section. -/
  ccn : String
  /-- The campus ID of the student. -/
  uid : String
  sisId : String := ""
  firstName : String := ""
  lastName : String := ""
  email : String := ""
  deriving DecidableEq

end Registrar
