import Registrar.Failure
import Registrar.Settings.Basic
import Registrar.Text.Blank
import Registrar.Yaml.Typed

/-!
# The settings file

The settings are written as an indented document with a map for each part. What is not written keeps its default, and
what nobody knows does not matter; a value of the wrong shape makes the whole file malformed.
-/

namespace Registrar

open Yaml (Node)

/-- Reads how to reach the directory. -/
def DirectorySettings.ofNode? (n : Node) : Option DirectorySettings := do
  let field ← n.fields? ["base_url", "account_id", "api_token", "report_poll_seconds"]
  let d : DirectorySettings := {}
  return {
    baseUrl := ← (field "base_url").elim (some d.baseUrl) Node.text?
    accountId := ← (field "account_id").elim (some d.accountId) Node.text?
    apiToken := ← (field "api_token").elim (some d.apiToken) Node.optionalText?
    reportPollSeconds := ← (field "report_poll_seconds").elim (some d.reportPollSeconds) Node.nat? }

/-- Reads how accounts are reconciled. -/
def SyncSettings.ofNode? (n : Node) : Option SyncSettings := do
  let field ← n.fields? ["dry_run", "delete_bad_emails", "inactivate_expired_users", "maintain_user_names",
    "import_via_csv", "prefer_alternate_email", "batch_size", "whitelist", "export_dir"]
  let d : SyncSettings := {}
  return {
    dryRun := ← (field "dry_run").elim (some d.dryRun) Node.bool?
    deleteBadEmails := ← (field "delete_bad_emails").elim (some d.deleteBadEmails) Node.bool?
    inactivateExpiredUsers := ← (field "inactivate_expired_users").elim (some d.inactivateExpiredUsers) Node.bool?
    maintainUserNames := ← (field "maintain_user_names").elim (some d.maintainUserNames) Node.bool?
    importViaCsv := ← (field "import_via_csv").elim (some d.importViaCsv) Node.bool?
    preferAlternateEmail := ← (field "prefer_alternate_email").elim (some d.preferAlternateEmail) Node.bool?
    batchSize := ← (field "batch_size").elim (some d.batchSize) Node.nat?
    whitelist := ← (field "whitelist").elim (some d.whitelist) Node.texts?
    exportDir := ← (field "export_dir").elim (some d.exportDir) Node.text? }

/-- Reads where the campus exports lie. -/
def CampusSettings.ofNode? (n : Node) : Option CampusSettings := do
  let field ← n.fields? ["export_dir"]
  let d : CampusSettings := {}
  return { exportDir := ← (field "export_dir").elim (some d.exportDir) Node.text? }

/-- Reads how evaluations are merged and published. -/
def EvaluationSettings.ofNode? (n : Node) : Option EvaluationSettings := do
  let field ← n.fields? ["export_dir", "term_start", "term_end", "adjacency_days", "hierarchy_root",
    "instructor_role", "batch_size"]
  let d : EvaluationSettings := {}
  return {
    exportDir := ← (field "export_dir").elim (some d.exportDir) Node.text?
    termStart := ← (field "term_start").elim (some d.termStart) Node.optionalText?
    termEnd := ← (field "term_end").elim (some d.termEnd) Node.optionalText?
    adjacencyDays := ← (field "adjacency_days").elim (some d.adjacencyDays) Node.int?
    hierarchyRoot := ← (field "hierarchy_root").elim (some d.hierarchyRoot) Node.text?
    instructorRole := ← (field "instructor_role").elim (some d.instructorRole) Node.text?
    batchSize := ← (field "batch_size").elim (some d.batchSize) Node.nat? }

namespace Settings

/-- Reads all settings. -/
def ofNode? (n : Node) : Option Settings := do
  let field ← n.fields? ["directory", "sync", "campus", "oec"]
  return {
    directory := ← (field "directory").elim (some {}) DirectorySettings.ofNode?
    sync := ← (field "sync").elim (some {}) SyncSettings.ofNode?
    campus := ← (field "campus").elim (some {}) CampusSettings.ofNode?
    evaluation := ← (field "oec").elim (some {}) EvaluationSettings.ofNode? }

/-- Reads the text of a settings file; a blank one leaves every default. -/
def read (text : String) : Except Failure Settings :=
  if Text.isBlankText text then .ok {}
  else match Node.read? text with
    | none => .error (.settingsMalformed "the text is not a document")
    | some n => match ofNode? n with
      | none => .error (.settingsMalformed "a setting has a value of the wrong kind")
      | some settings => .ok settings

end Settings

end Registrar
