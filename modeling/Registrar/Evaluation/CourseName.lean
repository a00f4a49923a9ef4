import Registrar.Sheet.Row
import Registrar.Text.Digit
import Registrar.Text.Word

/-!
# Course names

A course name such as `ENV DES C169B LEC 002 …` starts with a department, a catalog number, a format of three letters
and a section of three digits, with single spaces between them. `CourseName.parse?` finds them, with the shortest
department that works.
-/

namespace Registrar

/-- The parts of a course name. -/
structure CourseName where
  dept : String
  catalog : String
  format : String
  number : String
  deriving DecidableEq

namespace CourseName

/-- A catalog number: letters, one or more digits, letters. -/
def isCatalog (cs : List Char) : Bool :=
  let fromDigits := cs.dropWhile Text.isAsciiUpper
  !(fromDigits.takeWhile Text.isDecimal).isEmpty && (fromDigits.dropWhile Text.isDecimal).all Text.isAsciiUpper

/-- Nothing that continues a word comes next. -/
def isWordEnd : List Char → Bool
  | [] => true
  | c :: _ => !Text.isWordChar c

/-- Format and section, after a space each. -/
def readSection? : List Char → Option (List Char × List Char)
  | ' ' :: f₁ :: f₂ :: f₃ :: ' ' :: d₁ :: d₂ :: d₃ :: rest =>
    if [f₁, f₂, f₃].all Text.isAsciiUpper && [d₁, d₂, d₃].all Text.isDecimal && isWordEnd rest then
      some ([f₁, f₂, f₃], [d₁, d₂, d₃])
    else none
  | _ => none

/-- The name whose department is `dept`, when catalog number, format and section follow. -/
def readAfter? (dept : List Char) : List Char → Option CourseName
  | ' ' :: cs =>
    let catalog := cs.takeWhile (· ≠ ' ')
    if isCatalog catalog then
      (readSection? (cs.dropWhile (· ≠ ' '))).map fun (format, number) =>
        ⟨String.ofList dept, String.ofList catalog, String.ofList format, String.ofList number⟩
    else none
  | _ => none

/-- Tries departments from the shortest on; `dept` holds the characters passed, the last one first. -/
def search (dept : List Char) : List Char → Option CourseName
  | [] => none
  | c :: cs =>
    match if dept.isEmpty then none else readAfter? dept.reverse (c :: cs) with
    | some name => some name
    | none => if c = '\n' then none else search (c :: dept) cs

/-- The parts of a course name, blanks around it aside. -/
def parse? (s : String) : Option CourseName := search [] (Text.trimChars s.toList)

/-- Enters the parts into a merged row; a section known by its name alone counts as primary. -/
def enter (name : CourseName) (r : Row .sisImport) : Row .sisImport :=
  ((((r.set .deptName name.dept).set .catalogId name.catalog).set .instructionFormat name.format).set .sectionNum
    name.number).set .primarySecondaryCd "P"

end CourseName

end Registrar
