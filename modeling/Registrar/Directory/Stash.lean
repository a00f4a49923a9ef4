import Registrar.Directory.Reconcile
import Registrar.Sheet.Text
import Registrar.Text.Find

/-!
# The stash

A run leaves the report that it worked on and the sheets that it submitted in a folder, with the minute of the run in
their names. A cached run takes the newest report (`Stash.load`), and what the sheets newer than that report say has
been submitted is known from the start.
-/

namespace Registrar.Stash

/-- The name of a stashed report. -/
def reportName (stamp : String) : String := s!"provisioned-users-{stamp}.csv"

/-- The name of a sheet of account updates. -/
def updatesName (stamp : String) : String := s!"canvas-{stamp}-users-maintain.csv"

/-- The name of a sheet of ID changes. -/
def renamesName (stamp : String) : String := s!"canvas-{stamp}-sis-ids.csv"

/-- Whether a name is that of a report. -/
def isReport (name : String) : Bool := Text.startsWith "provisioned-users-" name && Text.endsWith ".csv" name

/-- Whether a name is that of a sheet of account updates. -/
def isUpdates (name : String) : Bool :=
  Text.startsWith "canvas" name && Text.holds "-users-".toList name.toList && Text.endsWith ".csv" name

/-- Whether a name is that of a sheet of ID changes. -/
def isRenames (name : String) : Bool := Text.startsWith "canvas" name && Text.endsWith "-sis-ids.csv" name

/-- The form of a stamp: `d` stands for a digit. -/
def stampForm : List Char := "dddd-dd-dd-dd-dd".toList

/-- Whether the characters have the form of a stamp. -/
def isStamp (cs : List Char) : Bool :=
  cs.length = stampForm.length &&
    (cs.zip stampForm).all fun (c, f) => if f = 'd' then Text.isDecimal c else c = f

/-- The first stamp in a text. -/
def findStamp : List Char → Option (List Char)
  | [] => none
  | c :: cs =>
    let candidate := (c :: cs).take stampForm.length
    if isStamp candidate then some candidate else findStamp cs

/-- The stamp in a name. -/
def stampOf? (name : String) : Option String := (findStamp name.toList).map String.ofList

/-- Whether a name has a stamp later than `stamp`. -/
def isNewer (stamp name : String) : Bool := (stampOf? name).any fun t => decide (stamp < t)

/-- Texts in ascending order. -/
def sorted (names : List String) : List String := names.mergeSort fun a b => decide (a ≤ b)

/-- A report that was found in the stash. -/
structure CachedReport where
  path : Path
  text : String
  deriving DecidableEq

/-- Reads a stashed sheet. -/
def readSheet (k : Kind) (path : Path) : Action (Except Failure (Sheet k)) := do
  match ← Action.fileText path with
  | .error reason => return .error (.callFailed (.readFile path) reason)
  | .ok text => return Sheet.readStrict k text

/-- Takes up what a sheet of account updates submitted. -/
def learnUpdates (known : KnownIds) (sheet : Sheet .userImport) : KnownIds :=
  sheet.toList.foldl (fun known r =>
    { known with users := known.users.insert (CampusLogin.bare (r.get .loginId)) (r.get .userId) }) known

/-- Takes up what a sheet of ID changes submitted. -/
def learnRenames (known : KnownIds) (sheet : Sheet .sisIdChanges) : KnownIds :=
  sheet.toList.foldl (fun known r => { known with renames := known.renames.insert (r.get .oldId) (r.get .newId) }) known

/-- Takes up one stashed sheet; an unreadable one is skipped. -/
def learnFrom (k : Kind) (what : String) (learn : KnownIds → Sheet k → KnownIds) (folder : Path) (known : KnownIds)
    (name : String) : Action KnownIds := do
  Action.log (.debug s!"Loading {what} CSV from {name}")
  match ← readSheet k (Path.join folder name) with
  | .ok sheet => return learn known sheet
  | .error failure =>
    Action.log (.warn s!"Skipping {name}: {failure.message}")
    return known

/-- Takes up the sheets that are newer than a stamp, oldest first. -/
def learnNewer (folder : Path) (stamp : String) (names : List String) (known : KnownIds) : Action KnownIds := do
  let newer := names.filter (isNewer stamp)
  let known ← Program.foldList (learnFrom .userImport "user update" learnUpdates folder) known (newer.filter isUpdates)
  Program.foldList (learnFrom .sisIdChanges "SIS id update" learnRenames folder) known (newer.filter isRenames)

/-- The newest report of the stash, and what is known to have been submitted since. -/
def load (folder : Path) (known : KnownIds) : Action (Except Failure (CachedReport × KnownIds)) := do
  match ← Action.listFolder folder with
  | .error reason => return .error (.folderUnlisted folder reason)
  | .ok listed =>
    let names := sorted listed
    match (names.filter isReport).getLast? with
    | none => return .error (.noStashedReport folder)
    | some name =>
      let path := Path.join folder name
      Action.log (.debug s!"Loading cached user report from {path}")
      match ← Action.fileText path with
      | .error reason => return .error (.fileUnread path reason)
      | .ok text =>
        let known ← match stampOf? name with
          | none => pure known
          | some stamp => learnNewer folder stamp names known
        return .ok (⟨path, text⟩, known)

end Registrar.Stash
