import Registrar.Campus
import Registrar.Host.Interface
import Registrar.Text.Delimited

/-!
# Campus exports

The campus feed comes as two delimited files in one folder, people and enrollments, each with a header line that names
its columns in any order. Columns nobody knows do not matter. Records are read one after the other, and the first that
cannot be read makes the whole query fail.
-/

namespace Registrar

namespace Export

/-- The fields of a record by column. -/
abbrev Fields := String → Option String

/-- The fields of a record, unless one of the columns is given twice. -/
def fields? (columns : List String) (header record : Delimited.Record) : Option Fields :=
  if columns.any fun c => 1 < header.count c then none else some ((header.zip record).lookup ·)

/-- Reads records in order; each must be as long as the header. -/
def readAll {α : Type} (read : Delimited.Record → Option α) (width : Nat) :
    List Delimited.Record → Except String (List α)
  | [] => .ok []
  | record :: rest =>
    if record.length ≠ width then .error "CSV error"
    else match read record with
      | none => .error "CSV deserialize error"
      | some a => (readAll read width rest).map (a :: ·)

/-- Reads the text of an export. -/
def readText {α : Type} (columns : List String) (read : Fields → Option α) (text : String) : Except String (List α) :=
  match Delimited.read text with
  | [] => .ok []
  | header :: records => readAll (fun record => (fields? columns header record).bind read) header.length records

/-- Why an export has no text; a folder can be opened, but not read. -/
def unreadMessage (path : Path) : DiskError → String
  | .isFolder => DiskError.isFolder.message
  | e => s!"cannot open {path}: {e.message}"

/-- Reads an export. -/
def readFile {α : Type} (path : Path) (columns : List String) (read : Fields → Option α) :
    HostAction (Except String (List α)) := do
  match ← HostAction.readFile path with
  | .ok text => return readText columns read text
  | .error e => return .error (unreadMessage path e)

/-! ## People -/

/-- The file of the people. -/
def peopleName : String := "people.csv"

/-- The columns of people. -/
def personColumns : List String :=
  ["ldap_uid", "student_id", "first_name", "last_name", "email", "alternate_email", "expired", "student"]

/-- A cell that is not blank. -/
def nonBlank? (cell : Option String) : Option String := cell.filter fun s => !Text.isBlankText s

/-- A flag that is set: `y`, `yes`, `true` or `1`. -/
def isSet (cell : Option String) : Bool := ["y", "yes", "true", "1"].contains (Text.trim (cell.getD "")).toLower

/-- The person of a record; it must have a campus ID. -/
def person? (f : Fields) : Option Person := do
  return {
    uid := ← f "ldap_uid"
    studentId := nonBlank? (f "student_id")
    firstName := (f "first_name").getD ""
    lastName := (f "last_name").getD ""
    email := nonBlank? (f "email")
    alternateEmail := nonBlank? (f "alternate_email")
    expired := isSet (f "expired")
    student := isSet (f "student") }

/-- The people with these campus IDs. -/
def people (folder : Path) (uids : List String) : HostAction (Except String (List Person)) :=
  (readFile (Path.join folder peopleName) personColumns person?).andThen fun people =>
    return .ok (people.filter fun p => uids.contains p.uid)

/-! ## Enrollments -/

/-- The file of the enrollments. -/
def enrollmentsName : String := "enrollments.csv"

/-- The columns of enrollments. -/
def enrollmentColumns : List String :=
  ["term", "section_id", "ldap_uid", "sis_id", "first_name", "last_name", "email"]

/-- The term and the enrollment of a record; it must have a term, a section and a campus ID. -/
def enrollment? (f : Fields) : Option (String × Enrollment) := do
  return (← f "term", {
    ccn := ← f "section_id"
    uid := ← f "ldap_uid"
    sisId := (f "sis_id").getD ""
    firstName := (f "first_name").getD ""
    lastName := (f "last_name").getD ""
    email := (f "email").getD "" })

/-- The enrollments of these sections in a term. -/
def enrollments (folder : Path) (term : String) (sections : List String) :
    HostAction (Except String (List Enrollment)) :=
  (readFile (Path.join folder enrollmentsName) enrollmentColumns enrollment?).andThen fun enrollments =>
    return .ok ((enrollments.filter fun e => e.1 = term && sections.contains e.2.ccn).map Prod.snd)

end Export

end Registrar
