import Registrar.CommandLine.Arguments
import Registrar.Release

/-!
# Usage

What the program says about itself and about arguments that it does not understand.
-/

namespace Registrar.CommandLine

/-- The name and the version of the program. -/
def versionText : String := s!"{programName} {version}\n"

/-- How the program is called. -/
def helpText : String :=
  "Reconcile campus accounts and publish course evaluation sheets\n\n" ++
  s!"Usage: {programName} COMMAND\n\n" ++
  "Commands:\n" ++
  "  sync-users [--uid UID]... [--cached] [--dry-run]\n" ++
  "  merge-confirmations --term TERM --confirmations DIR --imports DIR [--dept DEPT]... [--out FILE]\n" ++
  "  publish --term TERM --merged FILE --supervisors FILE [--previous DIR]\n" ++
  "  validate-sheet KIND PATH\n" ++
  "  help [COMMAND]\n"

/-- What is wrong with arguments. -/
def UsageError.message : UsageError → String
  | helpWanted => helpText
  | versionWanted => versionText
  | noCommand => "error: a command is needed\n\n" ++ helpText
  | unknownCommand => "error: there is no such command\n\n" ++ helpText
  | unknownArgument => "error: an argument is not expected\n\n" ++ helpText
  | unwantedValue => "error: an option takes no value\n\n" ++ helpText
  | badValue => "error: a value is missing or not possible\n\n" ++ helpText
  | repeated => "error: an argument may be given only once\n\n" ++ helpText
  | missing => "error: a required argument is not given\n\n" ++ helpText

/-- Help and the version are wanted, so they are no errors. -/
def UsageError.isWanted : UsageError → Bool
  | helpWanted | versionWanted => true
  | _ => false

end Registrar.CommandLine
