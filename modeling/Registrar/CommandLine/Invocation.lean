import Registrar.CommandLine.Arguments
import Registrar.Path
import Registrar.Sheet.Kind

/-!
# Invocations

What the program can be told to do: `Invocation.read` reads the arguments behind the program's name. The first argument
names the command; before it, only help and the version can be asked for.
-/

namespace Registrar.CommandLine

/-- What the program is told to do. -/
inductive Invocation where
  /-- Bring the directory in line with the campus feed; no campus IDs mean all accounts. -/
  | syncUsers (uids : List String) (cached dryRun : Bool)
  /-- Merge confirmations onto the imports; no departments mean all. -/
  | mergeConfirmations (term : String) (confirmations imports : Path) (depts : List String) (out : Option Path)
  | publish (term : String) (merged supervisors : Path) (previous : Option Path)
  /-- Show what is wrong with a sheet. -/
  | validateSheet (kind : Kind) (path : Path)
  deriving DecidableEq

namespace Invocation

/-- The names of the kinds of sheets that can be checked. -/
def kindNames : List (String × Kind) :=
  [("sis-import", .sisImport), ("course-confirmations", .courseConfirmation), ("courses", .courses),
   ("instructors", .instructors), ("students", .students), ("course-instructors", .courseInstructors),
   ("course-students", .courseStudents), ("supervisors", .supervisors), ("course-supervisors", .courseSupervisors),
   ("user-import", .userImport)]

/-- A path must not be empty. -/
def isPath (value : String) : Bool := !value.isEmpty

/-- An option with a path. -/
def pathOption (name : String) (required : Bool) : Parameter := { name, required, accepts := isPath }

/-! ## Commands -/

/-- What `sync-users` takes. -/
def syncUsersSignature : Signature where
  options := [{ name := "uid", arity := .many }, { name := "cached", arity := .flag },
    { name := "dry-run", arity := .flag }]

/-- What `merge-confirmations` takes. -/
def mergeConfirmationsSignature : Signature where
  options := [{ name := "term", required := true }, pathOption "confirmations" true, pathOption "imports" true,
    { name := "dept", arity := .many }, pathOption "out" false]

/-- What `publish` takes. -/
def publishSignature : Signature where
  options := [{ name := "term", required := true }, pathOption "merged" true, pathOption "supervisors" true,
    pathOption "previous" false]

/-- What `validate-sheet` takes. -/
def validateSheetSignature : Signature where
  places := [{ name := "kind", required := true, accepts := fun name => (kindNames.lookup name).isSome },
    pathOption "path" true]

/-- A value that has been given for sure. -/
def needed (g : Given) (name : String) : Except UsageError String := (g.value? name).elim (.error .missing) .ok

/-- The commands: for each its name, what it takes, and what is done with it. -/
def commands : List (String × Signature × (Given → Except UsageError Invocation)) :=
  [("sync-users", syncUsersSignature, fun g => .ok (syncUsers (g.all "uid") (g.has "cached") (g.has "dry-run"))),
   ("merge-confirmations", mergeConfirmationsSignature, fun g => do
      return mergeConfirmations (← needed g "term") (← needed g "confirmations") (← needed g "imports")
        (g.all "dept") (g.value? "out")),
   ("publish", publishSignature, fun g => do
      return publish (← needed g "term") (← needed g "merged") (← needed g "supervisors") (g.value? "previous")),
   ("validate-sheet", validateSheetSignature, fun g => do
      let name ← needed g "kind"
      match kindNames.lookup name with
      | some kind => return validateSheet kind (← needed g "path")
      | none => .error .badValue)]

/-- The command that shows help. -/
def helpName : String := "help"

/-- Whether a name is that of a command. -/
def isCommand (name : String) : Bool := name = helpName || (commands.lookup name).isSome

/-! ## Reading -/

/-- Help about the program or one command. -/
def help : List String → UsageError
  | [] => .helpWanted
  | [name] => if isCommand name then .helpWanted else .unknownCommand
  | _ => .unknownCommand

/-- An argument before the command that is none. -/
def notCommand (argument : String) : UsageError :=
  match Shape.of argument with
  | .long "help" none => .helpWanted
  | .long "version" none => .versionWanted
  | .long "help" _ | .long "version" _ => .unwantedValue
  | .short ('h' :: _) => .helpWanted
  | .short ('V' :: _) => .versionWanted
  | .long _ _ | .short _ => .unknownArgument
  | .rule | .plain => .unknownCommand

/-- What stands behind a lone `--` in place of a command: a command there is an argument too many. -/
def afterRule : List String → UsageError
  | [] => .noCommand
  | name :: _ => if isCommand name then .unknownArgument else .unknownCommand

/-- Reads the arguments behind the program's name. -/
def read : List String → Except UsageError Invocation
  | [] => .error .noCommand
  | "--" :: rest => .error (afterRule rest)
  | name :: rest =>
    if name = helpName then .error (help rest)
    else match commands.lookup name with
      | some (signature, interpret) => do interpret (← signature.read rest)
      | none => .error (notCommand name)

end Invocation

end Registrar.CommandLine
