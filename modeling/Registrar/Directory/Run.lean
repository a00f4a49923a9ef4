import Registrar.Batches
import Registrar.Directory.Apply
import Registrar.Directory.Stash
import Registrar.Settings.Basic

/-!
# A directory run

A run takes the directory's report of its accounts, fresh or from the stash, reconciles the accounts in batches, applies
ID changes, submits account updates and purges email addresses, in this order: an update may refer to an ID that a
change has just given. Failures of single lookups and changes are logged and counted; only a missing or malformed report
ends the run (`SyncRun.run`).
-/

namespace Registrar

/-- What a run is asked to do. -/
structure SyncRequest where
  /-- Only accounts of these campus IDs. -/
  uids : Option (List String) := none
  /-- Use the newest stashed report. -/
  cached : Bool := false
  deriving DecidableEq

/-- What a run did. -/
structure SyncReport where
  runId : String
  accountsExamined : Nat := 0
  /-- Batches whose lookup failed. -/
  batchesSkipped : Nat := 0
  usersUpdated : Nat := 0
  userUpdateFailures : Nat := 0
  /-- ID changes that were decided. -/
  sisIdChanges : Nat := 0
  sisIdFailures : Nat := 0
  /-- Users flagged for a purge of their email addresses. -/
  emailDeletions : Nat := 0
  dryRun : Bool := false
  deriving DecidableEq

/-- The report for people. -/
def SyncReport.text (r : SyncReport) : String :=
  let mode := if r.dryRun then " (dry run)" else ""
  let skipped := if r.batchesSkipped > 0 then s!"  batches skipped:   {r.batchesSkipped}\n" else ""
  s!"Directory sync {r.runId}{mode}\n" ++
    s!"  accounts examined: {r.accountsExamined}\n" ++ skipped ++
    s!"  accounts updated:  {r.usersUpdated} ({r.userUpdateFailures} failed)\n" ++
    s!"  SIS ID changes:    {r.sisIdChanges} ({r.sisIdFailures} failed)\n" ++
    s!"  email purges:      {r.emailDeletions}"

/-- How verdicts are reached under these settings. -/
def SyncSettings.policy (s : SyncSettings) : SyncPolicy where
  inactivateExpired := s.inactivateExpiredUsers
  maintainNames := s.maintainUserNames
  preferAlternateEmail := s.preferAlternateEmail
  whitelist := s.whitelist

namespace SyncRun

/-- Writes a file to the stash; a failure is only logged. -/
def stash (path : Path) (contents : String) : Action Unit := do
  match ← Action.writeFile path contents with
  | .ok () => return ()
  | .error reason => Action.log (.error (Failure.callFailed (.writeFile path) reason).message)

/-- The report of the accounts and what is known to have been submitted since it was made. -/
def obtainReport (settings : SyncSettings) (cached : Bool) (stamp : String) :
    Action (Except Failure (String × KnownIds)) := do
  if cached then
    match ← Stash.load settings.exportDir {} with
    | .error failure => return .error failure
    | .ok (report, known) => return .ok (report.text, known)
  else
    match ← Action.usersReport with
    | .error reason => return .error (.reportUnavailable reason)
    | .ok text =>
      stash (Path.join settings.exportDir (Stash.reportName stamp)) text
      return .ok (text, {})

/-- Whether an account belongs to one of the campus IDs asked for. -/
def isWanted (uids : Option (List String)) (account : Row .provisionedUsers) : Bool :=
  uids.all fun uids => uids.contains (CampusLogin.bare (account.get .loginId))

/-- Reconciles one batch, or skips it when its lookup fails. -/
def batchStep (policy : SyncPolicy) (state : Reconciliation × Nat) (accounts : List (Row .provisionedUsers)) :
    Action (Reconciliation × Nat) := do
  match ← state.1.batch policy accounts with
  | .ok s => return (s, state.2)
  | .error failure =>
    Action.log (.error s!"Skipping batch of {accounts.length} accounts: {failure.message}")
    return (state.1, state.2 + 1)

/-- Reconciles the accounts in batches and counts the skipped ones. -/
def reconcile (settings : SyncSettings) (known : KnownIds) (accounts : List (Row .provisionedUsers)) :
    Action (Reconciliation × Nat) :=
  Program.foldList (batchStep settings.policy) (Reconciliation.start known, 0) (batches settings.batchSize accounts)

/-- Submits an import sheet, except in a dry run; says whether it was accepted. -/
def submit (dryRun : Bool) (what text : String) : Action Bool := do
  let rows := Text.lineCount text - 1
  if dryRun then
    Action.log (.warn s!"DRY RUN MODE: Would submit {what} import of {rows} rows")
    return false
  match ← Action.importSheet text with
  | .ok () =>
    Action.log (.info s!"Submitted {what} import of {rows} rows")
    return true
  | .error reason =>
    Action.log (.error (Failure.callFailed (.importOf what) reason).message)
    return false

/-- Stashes and submits a sheet of `count` items; its items go through or fail together. -/
def submitSheet (settings : SyncSettings) (what name text : String) (count : Nat) : Action Tally := do
  stash (Path.join settings.exportDir name) text
  let accepted ← submit settings.dryRun what text
  return if accepted then { applied := count } else if settings.dryRun then {} else { failed := count }

/-- Applies ID changes one by one or as a sheet. -/
def applyRenames (settings : SyncSettings) (changes : Changes) (stamp : String) : Action Tally := do
  if !settings.importViaCsv then Apply.renames settings.dryRun changes.renames
  else if changes.renames.isEmpty then return {}
  else
    let count := changes.renames.length
    Action.log (.warn s!"About to add {count} SIS user ID changes to CSV")
    submitSheet settings "SIS ID change" (Stash.renamesName stamp) changes.toSheet.write count

/-- The log lines about faults of account updates. -/
def updateWarnings (updates : Sheet .userImport) : List LogLine :=
  updates.entries.flatMap fun (key, r) => r.faults.map fun fault => .warn s!"Account update for {key}: {fault.message}"

/-- Submits account updates. -/
def submitUpdates (settings : SyncSettings) (updates : Sheet .userImport) (stamp : String) : Action Tally := do
  if updates.rows.isEmpty then
    Action.log (.info "No account updates to submit")
    return {}
  Action.logAll (updateWarnings updates)
  submitSheet settings "account update" (Stash.updatesName stamp) updates.write updates.size

/-- A whole run. -/
def run (settings : SyncSettings) (request : SyncRequest) : Action (Except Failure SyncReport) := do
  let runId ← Action.freshId
  let stamp := (← Action.now).minuteStamp
  Action.log (.info s!"Starting directory sync {runId}")
  match ← obtainReport settings request.cached stamp with
  | .error failure => return .error failure
  | .ok (text, known) =>
    match Sheet.readStrict .provisionedUsers text with
    | .error failure => return .error failure
    | .ok report =>
      let accounts := report.toList.filter (isWanted request.uids)
      let (outcome, skipped) ← reconcile settings known accounts
      let renames ← applyRenames settings outcome.changes stamp
      let updates ← submitUpdates settings outcome.updates stamp
      let _ ← Apply.purgeIfEnabled settings.deleteBadEmails settings.dryRun outcome.changes.purges
      Action.log (.info s!"Finished directory sync {runId}")
      return .ok {
        runId
        accountsExamined := accounts.length
        batchesSkipped := skipped
        usersUpdated := updates.applied
        userUpdateFailures := updates.failed
        sisIdChanges := outcome.changes.renames.length
        sisIdFailures := renames.failed
        emailDeletions := outcome.changes.purges.length
        dryRun := settings.dryRun }

end SyncRun

end Registrar
