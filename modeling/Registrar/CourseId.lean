import Registrar.Text.Digit
import Registrar.Text.Split

/-!
# Course IDs

A course ID such as `2015-B-34821_GSI` names a term (`2015-B`), a section by its control number (`34821`) and, where a
section is evaluated in parts, a suffix. `CourseId.isWellFormed` is the grammar, `CourseId.split?` finds term and
control number also in IDs that do not fit it.
-/

namespace Registrar.CourseId

/-- One of the characters of a suffix. -/
def isSuffixChar (c : Char) : Bool := Text.isAsciiUpper c || Text.isAsciiDigit c

/-- A control number, or one with a suffix after `_`. -/
def isSection (cs : List Char) : Bool :=
  !(cs.takeWhile Text.isDecimal).isEmpty &&
    match cs.dropWhile Text.isDecimal with
    | [] => true
    | mark :: suffix => mark = '_' && !suffix.isEmpty && suffix.all isSuffixChar

/-- Four digits, a term letter and a section, with `-` between them. -/
def isWellFormed (s : String) : Bool :=
  match s.toList with
  | a :: b :: c :: d :: '-' :: term :: '-' :: rest =>
    [a, b, c, d].all Text.isDecimal && Text.isAsciiUpper term && isSection rest
  | _ => false

/-- The term and the control number: the last `-` parts them, and the first `_` after it ends the number. -/
def split? (s : String) : Option (String × String) :=
  (Text.cutLast '-' s.toList).map fun (term, rest) =>
    (String.ofList term, String.ofList (rest.takeWhile (· ≠ '_')))

/-- Whether an ID names a course of a term. -/
def isOfTerm (term s : String) : Bool := (split? s).any fun (t, _) => t = term

/-- Whether an ID carries a suffix. -/
def hasSuffix (s : String) : Bool := s.toList.contains '_'

/-- The form that evaluation scripts use for a department name: commas become `_`. -/
def departmentForm (name : String) : String := String.ofList (name.toList.map fun c => if c = ',' then '_' else c)

/-- The key of a course and a person. -/
def pairKey (course uid : String) : String := course ++ "-" ++ uid

end Registrar.CourseId
