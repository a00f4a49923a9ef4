import Registrar.Evaluation.Backfill
import Registrar.Evaluation.CourseName
import Registrar.Evaluation.IssueLog
import Registrar.Evaluation.Splitting
import Registrar.Settings.Basic
import Registrar.Sheet.Basic

/-!
# Merging confirmations

Departments confirm rows, and each confirmation is laid over the import row of the same course and instructor, or stands
for itself with what its course name tells (`Resolution`). Once all are added the merge drops repeated rows, splits
courses, reports conflicting values, flags courses outside the term's window, fills in SIS IDs and checks every row
(`Merge.finish`). Rows under one natural key all stay, the later ones in numbered slots.
-/

namespace Registrar

/-- The name under which issues of merged rows are recorded. -/
def mergedSheetName : String := "Merged course confirmations"

/-- The export name of merged confirmations. -/
def mergedExportName : String := "merged_course_confirmations"

/-- The issue of a confirmation without an import row. -/
def noImportRow : String := "No SIS import row found matching confirmation row"

/-- How a merge is done. -/
structure MergeOptions where
  termStart : Option Date := none
  termEnd : Option Date := none
  /-- The largest gap in days that still makes two windows of one instructor one course. -/
  adjacencyDays : Int := 1
  batchSize : Nat := 1000
  deriving DecidableEq

namespace MergeOptions

/-- A term date of the settings. -/
def termDate (setting : String) : Option String → Except Failure (Option Date)
  | none => .ok none
  | some text =>
    match Date.parse? text with
    | some date => .ok (some date)
    | none => .error (.termDateUnreadable setting text)

/-- The options that the settings ask for. -/
def ofSettings (s : EvaluationSettings) : Except Failure MergeOptions := do
  let termStart ← termDate "term_start" s.termStart
  let termEnd ← termDate "term_end" s.termEnd
  return { termStart, termEnd, adjacencyDays := s.adjacencyDays, batchSize := s.batchSize }

end MergeOptions

/-- The key of course and instructor. -/
def naturalKey {k : Kind} (r : Row k) : String := CourseId.pairKey (r.get .courseId) (r.get .ldapUid)

/-- A confirmation with what the import knows about it. -/
inductive Resolution where
  /-- The import has a row for the same course and instructor. -/
  | matched (imported : Row .sisImport) (confirmation : Row .courseConfirmation)
  /-- The import has none; the course name may tell the section. -/
  | unmatched (confirmation : Row .courseConfirmation) (inferred : Option CourseName)
  deriving DecidableEq

namespace Resolution

/-- Finds the import row of a confirmation; of several the first counts. -/
def of (imports : List (Row .sisImport)) (confirmation : Row .courseConfirmation) : Resolution :=
  match imports.find? fun r => naturalKey r = naturalKey confirmation with
  | some imported => .matched imported confirmation
  | none => .unmatched confirmation (CourseName.parse? (confirmation.get .courseName))

/-- Whether the import has a row. -/
def isMatched : Resolution → Bool
  | matched .. => true
  | unmatched .. => false

/-- The merged row. -/
def row : Resolution → Row .sisImport
  | matched imported confirmation => imported.overlay confirmation
  | unmatched confirmation inferred =>
    let r := confirmation.project .sisImport
    let r := r.set .courseId2 (r.get .courseId)
    match inferred with
    | some name => name.enter r
    | none => r

end Resolution

/-- The rows collected so far. -/
structure Merge where
  imports : List (Row .sisImport)
  options : MergeOptions
  rows : List (Row .sisImport) := []
  log : IssueLog := .empty

/-- Merged rows and what was found wrong. -/
structure MergeOutcome where
  merged : Sheet .sisImport
  log : IssueLog

namespace Merge

/-- A merge onto an import sheet. -/
def start (imports : Sheet .sisImport) (options : MergeOptions) : Merge := { imports := imports.toList, options }

/-- A confirmation that says nothing: neither course nor instructor. -/
def isEmptyRow (confirmation : Row .courseConfirmation) : Bool :=
  confirmation.isBlankAt .courseId && confirmation.isBlankAt .ldapUid

/-- Adds one confirmation. -/
def addRow (m : Merge) (confirmation : Row .courseConfirmation) : Merge :=
  let resolution := Resolution.of m.imports confirmation
  { m with
    rows := m.rows ++ [resolution.row]
    log := if resolution.isMatched then m.log
      else m.log.record mergedSheetName (naturalKey confirmation) noImportRow }

/-- The confirmations that say something. -/
def spoken (sheet : Sheet .courseConfirmation) : List (Row .courseConfirmation) :=
  sheet.toList.filter fun r => !isEmptyRow r

/-- Adds the confirmations of a department. -/
def add (m : Merge) (sheet : Sheet .courseConfirmation) : Merge := (spoken sheet).foldl addRow m

/-- The log line about the confirmations of a department. -/
def addNote (m : Merge) (dept : String) (sheet : Sheet .courseConfirmation) : LogLine :=
  let unmatched := (spoken sheet).countP fun r => !(Resolution.of m.imports r).isMatched
  .info s!"Added {sheet.size} confirmations from {dept} ({unmatched} without import rows)"

/-- Records a problem of an input sheet. -/
def recordInputIssue (m : Merge) (sheet key message : String) : Merge :=
  { m with log := m.log.record sheet key message }

/-! ## Finishing -/

/-- The distinct texts of a column that are not blank, trimmed, in row order. -/
def columnValues (rows : List (Row .sisImport)) (c : Column) : List String :=
  distinct ((rows.map fun r => Text.trim (r.get c)).filter fun v => v ≠ "")

/-- A text between single quotes. -/
def singleQuoted (v : String) : String := "'" ++ v ++ "'"

/-- The message about a column whose texts differ. -/
def conflictMessage (c : Column) (values : List String) : String :=
  s!"Conflicting values found under {c.header}: " ++ ", ".intercalate (values.map singleQuoted)

/-- The messages about rows that share a natural key. -/
def conflicts (rows : List (Row .sisImport)) : List String :=
  Kind.sisImport.exported.filterMap fun c =>
    let values := columnValues rows c
    if 1 < values.length then some (conflictMessage c values) else none

/-- Records the conflicts of all rows that share a natural key. -/
def reportConflicts (rows : List (Row .sisImport)) (log : IssueLog) : IssueLog :=
  (distinct (rows.map naturalKey)).foldl (fun log key =>
    log.recordAll mergedSheetName key (conflicts (rows.filter fun r => naturalKey r = key))) log

/-- Flags a row whose window is not the term's; a row without a readable window is left alone. -/
def flagModular (start finish : Date) (r : Row .sisImport) : Row .sisImport :=
  match Window.of? r with
  | none => r
  | some window => r.set .modularCourse (if window = ⟨start, finish⟩ then "" else "Y")

/-- Flags rows when the term's window is known. -/
def flagAll (options : MergeOptions) (rows : List (Row .sisImport)) : List (Row .sisImport) :=
  match options.termStart, options.termEnd with
  | some start, some finish => rows.map (flagModular start finish)
  | _, _ => rows

/-- The key of a row in its `i`-th slot, counted from zero. -/
def slotName (key : String) (i : Nat) : String := if i = 0 then key else s!"{key} ({i + 1})"

/-- The first slot of a key that is not taken. -/
def freeSlot (taken : List String) (key : String) : String :=
  (((List.range (taken.length + 1)).map (slotName key)).find? fun slot => !taken.contains slot).getD key

/-- Enters a row into the merged sheet and records its faults. -/
def enter (outcome : MergeOutcome) (r : Row .sisImport) : MergeOutcome :=
  let key := naturalKey r
  { merged := outcome.merged.insert (freeSlot outcome.merged.rows.keys key) r
    log := outcome.log.recordAll mergedSheetName key (r.faults.map Fault.message) }

/-- Finishes the merge. -/
def finish (m : Merge) : Action MergeOutcome := do
  let rows := distinct m.rows
  let gap := m.options.adjacencyDays
  Action.logAll (Splitting.notes gap rows)
  let renamed := Splitting.renamedCount gap rows
  if 0 < renamed then Action.log (.info s!"Suffixed {renamed} course IDs to separate meeting periods")
  let rows := Splitting.split gap rows
  let log := reportConflicts rows m.log
  let (rows, _) ← Backfill.run m.options.batchSize (flagAll m.options rows)
  return rows.foldl enter ⟨Sheet.named _ mergedExportName, log⟩

end Merge

end Registrar
