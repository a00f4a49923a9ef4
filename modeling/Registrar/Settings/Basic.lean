import Registrar.Path

/-!
# Settings

What an installation chooses: how to reach the directory, how accounts are reconciled, where the campus exports lie and
how evaluations are merged and published.
-/

namespace Registrar

/-- How to reach the directory. -/
structure DirectorySettings where
  baseUrl : String := "http://localhost:3000"
  /-- The account that holds the provisioned users. -/
  accountId : String := "1"
  apiToken : Option String := none
  /-- Seconds between two looks at the state of a report. -/
  reportPollSeconds : Nat := 10
  deriving DecidableEq

/-- How accounts are reconciled. -/
structure SyncSettings where
  /-- Decide, and apply nothing. -/
  dryRun : Bool := false
  /-- Delete the email addresses of departed users. -/
  deleteBadEmails : Bool := false
  inactivateExpiredUsers : Bool := false
  maintainUserNames : Bool := false
  /-- Submit ID changes as a sheet instead of one by one. -/
  importViaCsv : Bool := false
  preferAlternateEmail : Bool := false
  /-- Accounts in one lookup. -/
  batchSize : Nat := 1000
  whitelist : List String := []
  /-- Where reports and submitted sheets are stashed. -/
  exportDir : Path := "tmp/canvas"
  deriving DecidableEq

/-- Where the campus exports lie. -/
structure CampusSettings where
  exportDir : Path := "tmp/campus"
  deriving DecidableEq

/-- How evaluations are merged and published. -/
structure EvaluationSettings where
  /-- The folder with one folder for each term. -/
  exportDir : Path := "tmp/oec"
  termStart : Option String := none
  termEnd : Option String := none
  /-- The largest gap in days that still makes two windows of one instructor one course. -/
  adjacencyDays : Int := 1
  /-- The root of the department hierarchy. -/
  hierarchyRoot : String := "UC Berkeley"
  instructorRole : String := "23"
  /-- IDs in one back-fill lookup. -/
  batchSize : Nat := 1000
  deriving DecidableEq

/-- All settings. -/
structure Settings where
  directory : DirectorySettings := {}
  sync : SyncSettings := {}
  campus : CampusSettings := {}
  evaluation : EvaluationSettings := {}
  deriving DecidableEq

end Registrar
