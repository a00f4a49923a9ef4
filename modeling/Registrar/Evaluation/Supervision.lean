import Registrar.CourseId
import Registrar.Sheet.Basic

/-!
# Supervisors

A supervisor oversees up to ten departments. `Sheet.supervisorsOfForm` finds supervisors by the form that evaluation
scripts use for a department, `Sheet.supervisorsOfName` by the name itself.
-/

namespace Registrar

/-- The departments of a supervisor that are not blank. -/
def Row.departments (r : Row .supervisors) : List String :=
  (Column.supervisedDepts.map r.get).filter fun name => !Text.isBlankText name

namespace Sheet

/-- The supervisors of a department form; a blank form has none. -/
def supervisorsOfForm (s : Sheet .supervisors) (form : String) : List (Row .supervisors) :=
  if Text.isBlankText form then []
  else s.toList.filter fun r => r.departments.any fun name => CourseId.departmentForm name = form

/-- The supervisors of a department; a blank name has none. -/
def supervisorsOfName (s : Sheet .supervisors) (name : String) : List (Row .supervisors) :=
  if Text.isBlankText name then [] else s.toList.filter fun r => r.departments.contains name

end Sheet

end Registrar
