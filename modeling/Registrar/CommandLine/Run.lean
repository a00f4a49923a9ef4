import Registrar.CommandLine.Invocation
import Registrar.CommandLine.Usage
import Registrar.Directory.Run
import Registrar.Evaluation.Run
import Registrar.Settings.Text
import Registrar.Sheet.Coordinates
import Registrar.Tape.File

/-!
# Running the program

`run` is the whole program on a host: it reads the arguments and the settings, carries out the command and prints what
the command has to say. The settings come from a file, two of them also from variables of the environment. Another
variable asks for a recording of all calls to the services.
-/

namespace Registrar.CommandLine

/-- Why the program ends without success. -/
inductive RunError where
  | usage (e : UsageError)
  | failure (f : Failure)
  /-- The sheet to check cannot be read. -/
  | sheetUnread (path : Path) (reason : String)
  /-- There can be no recording. -/
  | unrecorded (reason : String)
  deriving DecidableEq

/-- The wording of an error. -/
def RunError.message : RunError → String
  | usage e => e.message
  | failure f => f.message
  | sheetUnread path reason => s!"cannot read {path}: {reason}"
  | unrecorded reason => reason

/-! ## Settings -/

/-- The variable that names the settings file. -/
def settingsVariable : String := "CAMPUS_SYNC_CONFIG"

/-- The settings file unless another is named. -/
def settingsFile : Path := "campus-sync.yaml"

/-- The variable that names the folder for recordings. -/
def recordVariable : String := "CAMPUS_SYNC_RECORD"

/-- Settings from a file; where there is none, every setting has its default. -/
def settingsFrom (path : Path) : HostAction (Except Failure Settings) := do
  if ← HostAction.isPresent path then
    match ← HostAction.readFile path with
    | .ok text => return Settings.read text
    | .error e => return .error (.settingsUnread path e.message)
  else
    Program.log (.debug s!"No settings file at {path}; using defaults")
    return .ok {}

/-- Settings with the token and the address of the directory from the environment, where they are given there. -/
def withEnvironment (s : Settings) : HostAction Settings := do
  let token ← HostAction.environment "CANVAS_API_TOKEN"
  let url ← HostAction.environment "CANVAS_BASE_URL"
  return { s with directory := { s.directory with
    apiToken := token <|> s.directory.apiToken
    baseUrl := url.getD s.directory.baseUrl } }

/-- The settings of a run. -/
def loadSettings : HostAction (Except Failure Settings) := do
  let path := (← HostAction.environment settingsVariable).getD settingsFile
  (settingsFrom path).andThen fun s => return .ok (← withEnvironment s)

/-! ## Commands -/

/-- A list of names that counts only if there are names in it. -/
def unlessEmpty (names : List String) : Option (List String) := if names.isEmpty then none else some names

/-- Lines below a heading. -/
def indented (lines : List String) : String := String.join (lines.map fun line => s!"  {line}\n")

/-- Brings the directory in line with the campus feed. -/
def syncUsers (s : Settings) (uids : List String) (cached dryRun : Bool) : Action (Except RunError String) := do
  match ← SyncRun.run { s.sync with dryRun := s.sync.dryRun || dryRun } ⟨unlessEmpty uids, cached⟩ with
  | .ok report => return .ok (report.text ++ "\n")
  | .error f => return .error (.failure f)

/-- What a merge has to say. -/
def mergeText (m : MergeSummary) : String :=
  s!"Merged {m.rows} rows into {m.path}\n" ++ if m.log.isEmpty then "" else m.log.report

/-- Merges confirmations onto the imports. -/
def merge (s : Settings) (request : MergeRequest) : Action (Except RunError String) := do
  match ← Evaluation.merge s.evaluation request with
  | .ok summary => return .ok (mergeText summary)
  | .error f => return .error (.failure f)

/-- What a publication has to say. -/
def publishText (p : PublishSummary) : String :=
  s!"Published {p.files.length} sheets to {p.dir}\n" ++
    if p.integrity.isEmpty then "" else "Validation failed!\n" ++ indented p.integrity

/-- Publishes the sheets of a term. -/
def publish (s : Settings) (request : PublishRequest) : Action (Except RunError String) := do
  match ← Evaluation.publish s.evaluation request with
  | .ok summary => return .ok (publishText summary)
  | .error f => return .error (.failure f)

/-- What the check of a sheet has to say. -/
def checkText (path : Path) (faults : List String) : String :=
  if faults.isEmpty then s!"{path}: no errors\n" else s!"{path}: {faults.length} errors\n" ++ indented faults

/-- Checks a sheet. -/
def check (kind : Kind) (path : Path) : Action (Except RunError String) := do
  match ← Action.fileText path with
  | .error reason => return .error (.sheetUnread path reason)
  | .ok text => match Sheet.report kind text with
    | .ok faults => return .ok (checkText path faults)
    | .error f => return .error (.failure f)

/-- Carries out a command; the result is what it has to say. -/
def Invocation.perform (s : Settings) : Invocation → Action (Except RunError String)
  | syncUsers uids cached dryRun => CommandLine.syncUsers s uids cached dryRun
  | mergeConfirmations term confirmations imports depts out =>
    CommandLine.merge s ⟨term, confirmations, imports, unlessEmpty depts, out⟩
  | publish term merged supervisors previous => CommandLine.publish s ⟨term, merged, supervisors, previous⟩
  | validateSheet kind path => CommandLine.check kind path

/-! ## Runs -/

/-- Prints what a command has to say. -/
def report : Except RunError String → HostAction (Except RunError Unit)
  | .ok text => do
    HostAction.print text
    return .ok ()
  | .error e => return .error e

/-- Runs a command. -/
def runPlain (s : Settings) (command : Invocation) : HostAction (Except RunError Unit) := do
  report (← onHost s (command.perform s))

/-- Runs a command and records its calls; where the recording fails, so does the run. -/
def runRecorded (s : Settings) (base : Path) (command : Invocation) : HostAction (Except RunError Unit) := do
  match ← Recording.start base with
  | .error reason => return .error (.unrecorded reason)
  | .ok (folder, stamp) =>
    let (result, tapes) ← onHost s ((command.perform s).recorded .blank)
    let outcome ← report result
    match ← Recording.finish folder stamp tapes with
    | .error reason => return .error (.unrecorded reason)
    | .ok () => return outcome

/-- Runs a command with the settings of the host. -/
def runCommand (command : Invocation) : HostAction (Except RunError Unit) := do
  match ← loadSettings with
  | .error f => return .error (.failure f)
  | .ok s => match ← HostAction.environment recordVariable with
    | some base => runRecorded s base command
    | none => runPlain s command

/-- Runs the program with the arguments behind its name. -/
def run (arguments : List String) : HostAction (Except RunError Unit) :=
  match Invocation.read arguments with
  | .ok command => runCommand command
  | .error e =>
    if e.isWanted then report (.ok e.message)
    else return .error (.usage e)

end Registrar.CommandLine
