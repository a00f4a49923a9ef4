import Registrar.Directory.Account
import Registrar.Document.Json
import Registrar.Host.Interface
import Registrar.Settings.Basic
import Registrar.Tape.Encoding

/-!
# The directory on the network

The directory answers requests over the network, in JSON. Every request carries the token of the settings. A report of
its accounts is made in three steps: it is started, its state is looked at until it is complete, and its text is fetched
(`Remote.usersReport`).
-/

namespace Registrar

namespace Remote

/-! ## Requests -/

/-- A request before it is sent. -/
structure Draft where
  method : HttpMethod
  url : String
  query : List (String × String) := []
  contentType : Option String := none
  body : String := ""

/-- The address of a part of the directory; slashes behind the base do not count. -/
def address (s : DirectorySettings) (path : String) : String :=
  String.ofList (s.baseUrl.toList.reverse.dropWhile (· = '/')).reverse ++ "/api/v1/" ++ path

/-- A request with a form. -/
def form (method : HttpMethod) (url : String) (fields : List (String × String)) : Draft :=
  { method, url, contentType := some "application/x-www-form-urlencoded", body := Url.formText fields }

/-- A header holds no control characters. -/
def isHeader (s : String) : Bool := s.toList.all fun c => c = '\t' || ' ' ≤ c && c ≠ '\x7f'

/-- The request of a draft, if its address and its headers can be sent. -/
def Draft.complete? (d : Draft) (token : String) : Option HttpRequest := do
  let url ← Url.parse? d.url
  let url := if d.query.isEmpty then url else url.withQuery d.query
  let authorization := "Bearer " ++ token
  if !isHeader authorization then none
  return { method := d.method, url, authorization, contentType := d.contentType, body := d.body }

/-- What the directory says about an error, if it says something. -/
def errorMessage? (body : String) : Option String := do
  let v ← Json.read? body
  let field ← v.fields? ["errors"]
  let messages ← Value.required (Value.items? fun e => do
    let field ← e.fields? ["message"]
    Value.required Value.text? (field "message")) (field "errors")
  messages.head?

/-- The body of a response, unless it is an error. -/
def accept (operation : String) (r : HttpResponse) : Except String String :=
  if 200 ≤ r.status ∧ r.status < 300 then .ok r.body
  else .error s!"{operation} failed ({r.status}): {(errorMessage? r.body).getD r.body}"

/-- Sends a request and gives the body of the response. -/
def sendText (s : DirectorySettings) (operation : String) (d : Draft) : HostAction (Except String String) :=
  match s.apiToken.filter fun token => !token.isEmpty with
  | none => return .error "no directory API token configured (set CANVAS_API_TOKEN)"
  | some token =>
    match d.complete? token with
    | none => return .error s!"{operation} request failed: builder error"
    | some request => do
      match ← HostAction.send request with
      | .error reason => return .error s!"{operation} request failed: {reason}"
      | .ok response => return accept operation response

/-- Sends a request and reads what the response says. -/
def sendJson {α : Type} (s : DirectorySettings) (operation : String) (read : Value → Option α) (d : Draft) :
    HostAction (Except String α) :=
  (sendText s operation d).andThen fun body =>
    match (Json.read? body).bind read with
    | some a => return .ok a
    | none => return .error s!"{operation}: failed to parse response"

/-! ## Reports -/

/-- How far a report is. -/
structure ReportStatus where
  id : UInt64
  status : String := ""
  /-- Where the text of a complete report is. -/
  attachment : Option String := none
  deriving DecidableEq

namespace ReportStatus

/-- Reads how far a report is. -/
def ofValue? (v : Value) : Option ReportStatus := do
  let field ← v.fields? ["id", "status", "attachment"]
  let url (v : Value) : Option String := do
    let field ← v.fields? ["url"]
    Value.required Value.text? (field "url")
  return {
    id := ← Value.required Value.id? (field "id")
    status := ← Value.textField (field "status")
    attachment := ← Value.withDefault none (Value.optional? url) (field "attachment") }

/-- The text of the report is there. -/
def isComplete (r : ReportStatus) : Bool := r.status = "complete"

/-- The report will never be there. -/
def isLost (r : ReportStatus) : Bool := r.status = "error" || r.status = "deleted"

end ReportStatus

/-- The part of the directory that makes reports of accounts. -/
def reportsPath (s : DirectorySettings) : String := s!"accounts/{s.accountId}/reports/provisioning_csv"

/-- Starts a report. -/
def startReport (s : DirectorySettings) : HostAction (Except String ReportStatus) :=
  sendJson s "start users report" ReportStatus.ofValue?
    (form .post (address s (reportsPath s)) [("parameters[users]", "true")])

/-- Looks how far a report is. -/
def pollReport (s : DirectorySettings) (id : UInt64) : HostAction (Except String ReportStatus) :=
  sendJson s "poll users report" ReportStatus.ofValue? { method := .get, url := address s s!"{reportsPath s}/{id}" }

/-- Fetches the text of a complete report. -/
def fetchReport (s : DirectorySettings) (r : ReportStatus) : HostAction (Except String String) :=
  match r.attachment with
  | none => return .error "users report completed without attachment"
  | some url => sendText s "download users report" { method := .get, url }

/-- How often the state of a report is looked at. -/
def maxPolls : Nat := 120

/-- Waits for a report, looking at its state at most `polls` times more. -/
def awaitReport (s : DirectorySettings) : (polls : Nat) → ReportStatus → HostAction (Except String String)
  | 0, r => return .error s!"users report {r.id} did not complete"
  | polls + 1, r =>
    if r.isComplete then fetchReport s r
    else if r.isLost then return .error s!"users report {r.id} ended with {r.status}"
    else do
      HostAction.pause s.reportPollSeconds
      (pollReport s r.id).andThen (awaitReport s polls)

/-- The report of all accounts. -/
def usersReport (s : DirectorySettings) : HostAction (Except String String) :=
  (startReport s).andThen fun r => do
    Program.log (.info s!"Requested users report {r.id}")
    awaitReport s maxPolls r

/-! ## Users -/

/-- The response does not matter. -/
def ignore (p : HostAction (Except String String)) : HostAction (Except String Unit) := p.andThen fun _ => return .ok ()

/-- The logins of a user. -/
def logins (s : DirectorySettings) (user : String) : HostAction (Except String (List DirectoryLogin)) :=
  sendJson s "list logins" (Value.items? DirectoryLogin.ofValue?)
    { method := .get, url := address s s!"users/{user}/logins" }

/-- Gives a login a SIS ID. -/
def assignSisId (s : DirectorySettings) (login : UInt64) (sisId : String) : HostAction (Except String Unit) :=
  ignore (sendText s "change login SIS ID"
    (form .put (address s s!"accounts/{s.accountId}/logins/{login}") [("login[sis_user_id]", sisId)]))

/-- The contact channels of a user. -/
def channels (s : DirectorySettings) (user : String) : HostAction (Except String (List Channel)) :=
  sendJson s "list communication channels" (Value.items? Channel.ofValue?)
    { method := .get, url := address s s!"users/{user}/communication_channels" }

/-- Deletes a contact channel of a user. -/
def deleteChannel (s : DirectorySettings) (user : String) (channel : UInt64) : HostAction (Except String Unit) :=
  ignore (sendText s "delete communication channel"
    { method := .delete, url := address s s!"users/{user}/communication_channels/{channel}" })

/-- Submits an import sheet. -/
def importSheet (s : DirectorySettings) (text : String) : HostAction (Except String Unit) :=
  ignore (sendText s "SIS import" {
    method := .post
    url := address s s!"accounts/{s.accountId}/sis_imports"
    query := [("import_type", "instructure_csv"), ("extension", "csv")]
    contentType := some "text/csv"
    body := text })

end Remote

end Registrar
