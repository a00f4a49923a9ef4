import Registrar.Batches
import Registrar.CourseId
import Registrar.Evaluation.Window
import Registrar.World.Log

/-!
# Splitting courses by window

Where the rows of a course ID turn out to be different courses, each gets the stamp of its last day as a suffix. An ID
that carries a suffix is left alone.
-/

namespace Registrar.Splitting

/-- The rows with a course ID. -/
def group (rows : List (Row .sisImport)) (id : String) : List (Row .sisImport) :=
  rows.filter fun r => r.get .courseId = id

/-- The course IDs of several rows, in the order in which they come first. -/
def sharedIds (rows : List (Row .sisImport)) : List String :=
  (distinct (rows.map fun r => r.get .courseId)).filter fun id => 1 < (group rows id).length

/-- Whether the rows of a course ID become different courses. -/
def isSplit (gap : Int) (rows : List (Row .sisImport)) (id : String) : Bool :=
  GroupDecision.of gap (group rows id) = .split && !CourseId.hasSuffix id

/-- The course IDs whose rows become different courses. -/
def splitIds (gap : Int) (rows : List (Row .sisImport)) : List String := (sharedIds rows).filter (isSplit gap rows)

/-- The row under the course ID with the stamp of its last day; a second ID that was the same goes along. -/
def suffixed (r : Row .sisImport) : Row .sisImport :=
  match Window.of? r with
  | none => r
  | some window =>
    let id := r.get .courseId
    let newId := id ++ "_" ++ window.last.stamp
    (if r.get .courseId2 = id then r.set .courseId2 newId else r).set .courseId newId

/-- The rows with the courses split. -/
def split (gap : Int) (rows : List (Row .sisImport)) : List (Row .sisImport) :=
  let ids := splitIds gap rows
  rows.map fun r => if r.get .courseId ∈ ids then suffixed r else r

/-- The number of rows that a split renames. -/
def renamedCount (gap : Int) (rows : List (Row .sisImport)) : Nat :=
  let ids := splitIds gap rows
  rows.countP fun r => r.get .courseId ∈ ids

/-- Why the rows of a shared course ID are left as they are, where their windows differ. -/
def note? (gap : Int) (rows : List (Row .sisImport)) (id : String) : Option LogLine :=
  match GroupDecision.of gap (group rows id) with
  | .uniform => none
  | .split =>
    if CourseId.hasSuffix id then
      some (.debug s!"{id} already carries a suffix; leaving its date ranges as they are")
    else none
  | .conflict => some (.debug s!"{id} has touching date ranges for one instructor; not splitting")
  | .unreadable => some (.debug s!"{id} has unparseable dates; not splitting")

/-- The log lines of a split. -/
def notes (gap : Int) (rows : List (Row .sisImport)) : List LogLine := (sharedIds rows).filterMap (note? gap rows)

end Registrar.Splitting
