import Registrar.Evaluation.Integrity
import Registrar.Evaluation.Merge
import Registrar.Sheet.Text
import Registrar.Text.Find

/-!
# Evaluation runs

A merge run reads one sheet of each department from the folders of imports and confirmations, merges them and writes the
merged sheet (`Evaluation.merge`). A publish run reads a merged sheet and the supervisors, builds the publication,
checks it and writes its sheets into a folder of their own (`Evaluation.publish`). What is wrong with rows goes into the
issue log; only unreadable inputs and failed writes end a run.
-/

namespace Registrar

/-- What a merge run is asked to do. -/
structure MergeRequest where
  term : String
  confirmationsDir : Path
  importsDir : Path
  /-- Only these departments. -/
  depts : Option (List String) := none
  /-- The merged sheet; without it, a file in the folder of the term. -/
  out : Option Path := none
  deriving DecidableEq

/-- What a merge run did. -/
structure MergeSummary where
  path : Path
  rows : Nat
  log : IssueLog
  deriving DecidableEq

/-- What a publish run is asked to do. -/
structure PublishRequest where
  term : String
  merged : Path
  supervisors : Path
  /-- The folder of the publication of the term before. -/
  previous : Option Path := none
  deriving DecidableEq

/-- What a publish run did. -/
structure PublishSummary where
  dir : Path
  files : List Path
  log : IssueLog
  /-- The references that lead nowhere. -/
  integrity : List String
  deriving DecidableEq

namespace Evaluation

/-- The text of an input file. -/
def inputText (path : Path) : Action (Except Failure String) := do
  match ← Action.fileText path with
  | .ok text => return .ok text
  | .error reason => return .error (.fileUnread path reason)

/-- A sheet without unreadable dates. -/
def inputSheet (k : Kind) (path : Path) : Action (Except Failure (Sheet k)) := do
  match ← inputText path with
  | .ok text => return Sheet.readStrict k text
  | .error failure => return .error failure

/-- Writes a file that the run must not lose. -/
def output (path : Path) (contents : String) : Action (Except Failure Unit) := do
  match ← Action.writeFile path contents with
  | .ok () => return .ok ()
  | .error reason => return .error (.callFailed (.writeFile path) reason)

/-! ## Department sheets -/

/-- The sheets of departments. -/
abbrev DepartmentSheets (k : Kind) := List (String × Sheet k)

/-- Records the unreadable dates of an input sheet. -/
def recordDates (log : IssueLog) (sheet : String) (failures : List (String × Failure)) : IssueLog :=
  failures.foldl (fun log (key, failure) => log.record sheet key failure.message) log

/-- An input sheet, its unreadable dates apart. -/
def inputReading (k : Kind) (path : Path) : Action (Except Failure (Sheet.Reading k)) :=
  (inputText path).andThen fun text => return Sheet.read k text

/-- Reads the sheets among the names of a folder, in order, up to the first that cannot be read. The log has the
unreadable dates of those that were read. -/
def readDepartments (k : Kind) (dir : Path) (depts : Option (List String)) (log : IssueLog) :
    List String → Action (Except Failure (DepartmentSheets k) × IssueLog)
  | [] => return (.ok [], log)
  | name :: rest =>
    match Text.stripTail? ".csv" name with
    | none => readDepartments k dir depts log rest
    | some dept =>
      if depts.any fun wanted => !wanted.contains dept then do
        Action.log (.debug s!"Skipping {name}: department not selected")
        readDepartments k dir depts log rest
      else do
        match ← inputReading k (Path.join dir name) with
        | .error failure => return (.error failure, log)
        | .ok reading =>
          let (sheets, log) ← readDepartments k dir depts (recordDates log name reading.dateFailures) rest
          return (sheets.map fun sheets => (dept, reading.sheet) :: sheets, log)

/-- The sheets of the departments in a folder, by department, and the log with their unreadable dates. -/
def departmentSheets (k : Kind) (dir : Path) (depts : Option (List String)) (log : IssueLog) :
    Action (Except Failure (DepartmentSheets k) × IssueLog) := do
  match ← Action.listFolder dir with
  | .error reason => return (.error (.folderUnlisted dir reason), log)
  | .ok names => readDepartments k dir depts log (names.mergeSort fun a b => decide (a ≤ b))

/-! ## Merging -/

/-- The folder of a term. -/
def termDir (settings : EvaluationSettings) (term : String) : Path := Path.join settings.exportDir term

/-- Enters the rows of a department into the import sheet; of several under one natural key the first counts. -/
def importRow (dept : String) (imports : Sheet .sisImport) (r : Row .sisImport) : Action (Sheet .sisImport) := do
  let key := naturalKey r
  if imports.contains key then
    Action.log (.debug s!"{dept}: {key} already imported from another department")
    return imports
  return imports.insert key r

/-- One import sheet from those of the departments. -/
def combineImports (sheets : DepartmentSheets .sisImport) : Action (Sheet .sisImport) :=
  Program.foldList (fun imports (dept, sheet) => Program.foldList (importRow dept) imports sheet.toList) {} sheets

/-- Adds the confirmations of the departments. -/
def addConfirmations (m : Merge) (sheets : DepartmentSheets .courseConfirmation) : Action Merge :=
  Program.foldList (fun m (dept, sheet) => do
    Action.log (m.addNote dept sheet)
    return m.add sheet) m sheets

/-- Writes the merged sheet and sums up. -/
def deliverMerge (settings : EvaluationSettings) (request : MergeRequest) (inputLog : IssueLog)
    (outcome : MergeOutcome) : Action (Except Failure MergeSummary) := do
  let log := outcome.log.extend inputLog
  let path := request.out.getD (Path.join (termDir settings request.term) outcome.merged.fileName)
  (output path outcome.merged.write).andThen fun () => do
    Action.log (.info s!"Wrote {outcome.merged.size} merged rows to {path}")
    Action.logAll log.notes
    return .ok ⟨path, outcome.merged.size, log⟩

/-- A merge run. -/
def merge (settings : EvaluationSettings) (request : MergeRequest) : Action (Except Failure MergeSummary) :=
  match MergeOptions.ofSettings settings with
  | .error failure => return .error failure
  | .ok options =>
    (departmentSheets .sisImport request.importsDir request.depts .empty).bind fun
      | (.error failure, _) => return .error failure
      | (.ok importSheets, log) => do
        let imports ← combineImports importSheets
        Action.log (.info s!"Loaded {imports.size} SIS import rows")
        match ← departmentSheets .courseConfirmation request.confirmationsDir request.depts log with
        | (.error failure, _) => return .error failure
        | (.ok confirmations, log) => do
          let m ← addConfirmations (Merge.start imports options) confirmations
          deliverMerge settings request log (← m.finish)

/-! ## Publishing -/

/-- A sheet that may be missing. -/
def optionalSheet (k : Kind) (path : Path) : Action (Except Failure (Sheet k)) := do
  if ← Action.fileExists path then inputSheet k path else return .ok {}

/-- The file of a sheet in the folder of a publication. -/
def publishedSheet (dir : Path) (k : Kind) : Path := Path.join dir (k.exportName ++ ".csv")

/-- What was published for the term before. -/
def loadPrevious (dir : Path) : Action (Except Failure PreviousTerm) :=
  (optionalSheet .courseInstructors (publishedSheet dir .courseInstructors)).andThen fun pairings =>
    (optionalSheet .instructors (publishedSheet dir .instructors)).andThen fun instructors => do
      Action.log (.info (s!"Loaded {pairings.size} course instructors and {instructors.size} instructors from " ++ dir))
      return .ok ⟨pairings, instructors⟩

/-- What was published for the term before, if a folder is given. -/
def loadPrevious? : Option Path → Action (Except Failure (Option PreviousTerm))
  | none => return .ok none
  | some dir => (loadPrevious dir).andThen fun previous => return .ok (some previous)

/-- Writes sheets into a folder and lists their paths. -/
def writeSheets (dir : Path) : List Publication.AnySheet → Action (Except Failure (List Path))
  | [] => return .ok []
  | ⟨_, s⟩ :: rest =>
    let path := Path.join dir s.fileName
    (output path s.writePlain).andThen fun () => do
      Action.log (.info s!"Exported {s.size} rows to {path}")
      (writeSheets dir rest).andThen fun paths => return .ok (path :: paths)

/-- Checks a publication, writes its sheets and sums up. -/
def deliverPublication (settings : EvaluationSettings) (term : String) (inputLog : IssueLog) (p : Publication) :
    Action (Except Failure PublishSummary) := do
  let log := p.validate inputLog
  Action.logAll log.notes
  let integrity := Integrity.check p term
  Action.logAll (Integrity.notes integrity)
  let stamp := (← Action.now).secondStamp
  let dir := Path.join (termDir settings term) s!"publish_{stamp}"
  (writeSheets dir p.sheets).andThen fun files => return .ok ⟨dir, files, log, integrity⟩

/-- A publish run. -/
def publish (settings : EvaluationSettings) (request : PublishRequest) : Action (Except Failure PublishSummary) :=
  (inputReading .sisImport request.merged).andThen fun merged =>
    (inputSheet .supervisors request.supervisors).andThen fun supervisors =>
      (loadPrevious? request.previous).andThen fun previous => do
        let options : PublicationOptions := ⟨request.term, settings.hierarchyRoot, settings.instructorRole⟩
        let p ← Publication.build merged.sheet supervisors previous options
        let log := recordDates .empty merged.sheet.exportName merged.dateFailures
        deliverPublication settings request.term log p

end Evaluation

end Registrar
