import Registrar.Sheet.Kind

/-!
# Failures

A `Failure` is why a run or a reading ends without a result. Its causes are data, `Failure.message` is their wording.
Setup and configuration failures are fatal: nothing of the run can go on.
-/

namespace Registrar

/-- What was being attempted when the outside world refused. -/
inductive Operation where
  | attributesLookup
  | backfillLookup
  | enrollmentLookup
  | listLogins (user : String)
  | changeSisId (login : UInt64)
  | listChannels (user : String)
  | deleteChannel (channel : UInt64)
  | importOf (what : String)
  | readFile (path : String)
  | writeFile (path : String)
  deriving DecidableEq

/-- The wording of an operation. -/
def Operation.text : Operation → String
  | attributesLookup => "campus attributes lookup"
  | backfillLookup => "SIS ID back-fill lookup"
  | enrollmentLookup => "enrollment lookup"
  | listLogins user => s!"list logins of {user}"
  | changeSisId login => s!"change SIS ID of login {login}"
  | listChannels user => s!"list communication channels of {user}"
  | deleteChannel channel => s!"delete communication channel {channel}"
  | importOf what => s!"{what} import"
  | readFile path => s!"read {path}"
  | writeFile path => s!"write {path}"

/-- Why there is no result. -/
inductive Failure where
  /-- No record of a text is the header line of the kind. -/
  | headerMismatch (kind : Kind) (text : String)
  /-- A date column holds a text that names no date. -/
  | unreadableDate (column : Column) (value : String)
  /-- A single call to the outside world failed. -/
  | callFailed (operation : Operation) (reason : String)
  /-- A folder of inputs cannot be listed. -/
  | folderUnlisted (folder reason : String)
  /-- An input file cannot be read. -/
  | fileUnread (path reason : String)
  /-- The directory gives no report of its accounts. -/
  | reportUnavailable (reason : String)
  /-- A cached run finds no stashed report. -/
  | noStashedReport (folder : String)
  /-- A term date of the settings names no date. -/
  | termDateUnreadable (setting value : String)
  /-- The settings file cannot be read. -/
  | settingsUnread (path reason : String)
  /-- The settings file is not what it should be. -/
  | settingsMalformed (reason : String)
  deriving DecidableEq

namespace Failure

/-- The number of characters of a text that a header mismatch quotes. -/
def excerptLength : Nat := 500

/-- The beginning of a text, with dots where something was cut off. -/
def excerpt (text : String) : String :=
  let cs := text.toList
  if excerptLength < cs.length then String.ofList (cs.take excerptLength) ++ "..." else text

/-- The wording of a failure. -/
def message : Failure → String
  | headerMismatch kind text => s!"Header mismatch: cannot create {kind.exportName} from CSV: '{excerpt text}'"
  | unreadableDate column value => s!"Could not parse {column.header} value: '{value}'"
  | callFailed operation reason => s!"{operation.text} failed: {reason}"
  | folderUnlisted folder reason => s!"Fatal setup error: cannot list {folder}: {reason}"
  | fileUnread path reason => s!"Fatal setup error: cannot read {path}: {reason}"
  | reportUnavailable reason => s!"Fatal setup error: cannot fetch users report: {reason}"
  | noStashedReport folder => s!"Fatal setup error: no cached users report in {folder}"
  | termDateUnreadable setting value => s!"Configuration error: oec.{setting} is not a date: '{value}'"
  | settingsUnread path reason => s!"Configuration error: cannot read {path}: {reason}"
  | settingsMalformed reason => s!"Configuration error: {reason}"

/-- Whether the whole run must end. -/
def isFatal : Failure → Bool
  | headerMismatch .. | unreadableDate .. | callFailed .. => false
  | _ => true

end Failure

end Registrar
