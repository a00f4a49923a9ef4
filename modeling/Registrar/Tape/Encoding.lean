import Registrar.Document.Value
import Registrar.Tape.Family
import Registrar.World.Service

/-!
# Calls and replies as values

How a call of a service and its reply are put on a tape, and how a reply is read back. The reply of a service that may
refuse stands in an envelope that says `Ok` or `Err`. Every reply reads back as it was put on the tape
(`Service.reply_output`), an instant if its text does (`Service.reply_output_now`).
-/

namespace Registrar

open Value

/-! ## People, enrollments, logins and channels -/

namespace Person

/-- The names of the fields. -/
def fieldNames : List String :=
  ["ldap_uid", "student_id", "first_name", "last_name", "email", "alternate_email", "expired", "student"]

/-- A person as a record. -/
def toValue (p : Person) : Value :=
  record [("ldap_uid", text p.uid), ("student_id", ofOptionalText p.studentId), ("first_name", text p.firstName),
    ("last_name", text p.lastName), ("email", ofOptionalText p.email),
    ("alternate_email", ofOptionalText p.alternateEmail), ("expired", bool p.expired), ("student", bool p.student)]

/-- Reads a person; only the campus ID must be there. -/
def ofValue? (v : Value) : Option Person := do
  let field ← v.fields? fieldNames
  return {
    uid := ← required text? (field "ldap_uid")
    studentId := ← optionalTextField (field "student_id")
    firstName := ← textField (field "first_name")
    lastName := ← textField (field "last_name")
    email := ← optionalTextField (field "email")
    alternateEmail := ← optionalTextField (field "alternate_email")
    expired := ← flagField (field "expired")
    student := ← flagField (field "student") }

@[simp] theorem ofValue?_toValue (p : Person) : ofValue? p.toValue = some p := by
  obtain ⟨uid, studentId, firstName, lastName, email, alternateEmail, expired, student⟩ := p
  cases studentId <;> cases email <;> cases alternateEmail <;> rfl

end Person

namespace Enrollment

/-- The names of the fields. -/
def fieldNames : List String := ["section_id", "ldap_uid", "sis_id", "first_name", "last_name", "email"]

/-- An enrollment as a record. -/
def toValue (e : Enrollment) : Value :=
  record [("section_id", text e.ccn), ("ldap_uid", text e.uid), ("sis_id", text e.sisId),
    ("first_name", text e.firstName), ("last_name", text e.lastName), ("email", text e.email)]

/-- Reads an enrollment; the section and the campus ID must be there. -/
def ofValue? (v : Value) : Option Enrollment := do
  let field ← v.fields? fieldNames
  return {
    ccn := ← required text? (field "section_id")
    uid := ← required text? (field "ldap_uid")
    sisId := ← textField (field "sis_id")
    firstName := ← textField (field "first_name")
    lastName := ← textField (field "last_name")
    email := ← textField (field "email") }

@[simp] theorem ofValue?_toValue (e : Enrollment) : ofValue? e.toValue = some e := rfl

end Enrollment

namespace DirectoryLogin

/-- The names of the fields. -/
def fieldNames : List String := ["id", "unique_id", "sis_user_id"]

/-- A login as a record. -/
def toValue (l : DirectoryLogin) : Value :=
  record [("id", ofId l.id), ("unique_id", text l.uniqueId), ("sis_user_id", ofOptionalText l.sisUserId)]

/-- Reads a login; the SIS ID may be missing. -/
def ofValue? (v : Value) : Option DirectoryLogin := do
  let field ← v.fields? fieldNames
  return {
    id := ← required id? (field "id")
    uniqueId := ← required text? (field "unique_id")
    sisUserId := ← optionalTextField (field "sis_user_id") }

@[simp] theorem ofValue?_toValue (l : DirectoryLogin) : ofValue? l.toValue = some l := by
  simp [ofValue?, toValue, fields?, fieldNames, repeats, List.lookup_cons, required, optionalTextField, withDefault,
    text?]

end DirectoryLogin

namespace Channel

/-- The names of the fields. -/
def fieldNames : List String := ["id", "type", "address"]

/-- A channel as a record. -/
def toValue (c : Channel) : Value := record [("id", ofId c.id), ("type", text c.type), ("address", text c.address)]

/-- Reads a channel. -/
def ofValue? (v : Value) : Option Channel := do
  let field ← v.fields? fieldNames
  return {
    id := ← required id? (field "id")
    type := ← required text? (field "type")
    address := ← required text? (field "address") }

@[simp] theorem ofValue?_toValue (c : Channel) : ofValue? c.toValue = some c := by
  simp [ofValue?, toValue, fields?, fieldNames, repeats, List.lookup_cons, required, text?]

end Channel

/-! ## Envelopes -/

/-- A result or a refusal in its envelope. -/
def envelope {α : Type} (f : α → Value) : Except String α → Value
  | .ok a => record [("Ok", f a)]
  | .error reason => record [("Err", text reason)]

/-- The wording for data of the wrong shape. -/
def unreadable (context : String) : String := s!"{context}: failed to deserialize"

/-- Opens an envelope; a refusal counts before a result. -/
def openEnvelope {α : Type} (context : String) (f : Value → Option α) (v : Value) : Except String α :=
  match v.get? "Err", v.get? "Ok" with
  | some reason, _ => .error (reason.text?.getD "unknown error")
  | none, none => .error s!"{context}: no Ok/Err envelope"
  | none, some v => match f v with
    | some a => .ok a
    | none => .error (unreadable context)

theorem openEnvelope_envelope {α : Type} (context : String) {f : Value → Option α} {g : α → Value}
    (h : ∀ a, f (g a) = some a) (r : Except String α) : openEnvelope context f (envelope g r) = r := by
  cases r <;> simp [openEnvelope, envelope, get?, List.lookup_cons, text?, h]

/-! ## Calls -/

namespace Service

/-- The family of a call. -/
def family : Service → Family
  | now => .clock
  | freshId => .runIds
  | fileText _ | writeFile _ _ | fileExists _ | listFolder _ => .files
  | people _ | enrollments _ _ => .campus
  | usersReport | logins _ | assignSisId _ _ | channels _ | deleteChannel _ _ | importSheet _ => .directory

/-- The method of a call. -/
def method : Service → String
  | now => "now"
  | freshId => "generate_id"
  | fileText _ => "read_to_string"
  | writeFile _ _ => "write"
  | fileExists _ => "exists"
  | listFolder _ => "list_dir"
  | people _ => "attributes_for_uids"
  | enrollments _ _ => "enrollments"
  | usersReport => "users_report"
  | logins _ => "list_logins"
  | assignSisId _ _ => "change_login_sis_id"
  | channels _ => "list_communication_channels"
  | deleteChannel _ _ => "delete_communication_channel"
  | importSheet _ => "sis_import"

/-- What a call asks for. -/
def input : Service → Value
  | now | freshId | usersReport => null
  | fileText path | fileExists path | listFolder path => record [("path", text path)]
  | writeFile path contents => record [("path", text path), ("contents", text contents)]
  | people uids => record [("uids", list (uids.map text))]
  | enrollments term sections => record [("term", text term), ("section_ids", list (sections.map text))]
  | logins user | channels user => record [("user_ref", text user)]
  | assignSisId login sisId => record [("login_id", ofId login), ("sis_user_id", text sisId)]
  | deleteChannel user channel => record [("user_ref", text user), ("channel_id", ofId channel)]
  | importSheet sheet => record [("csv", text sheet)]

/-- What came of a call. -/
def output : (c : Service) → c.Reply → Value
  | now, (t : Instant) => text t.shortText
  | freshId, (id : String) => text id
  | fileText _, (r : Except String String) => envelope text r
  | writeFile _ _, (r : Except String Unit) => envelope (fun _ => null) r
  | fileExists _, (b : Bool) => bool b
  | listFolder _, (r : Except String (List String)) => envelope (fun l => list (l.map text)) r
  | people _, (r : Except String (List Person)) => envelope (fun l => list (l.map Person.toValue)) r
  | enrollments _ _, (r : Except String (List Enrollment)) => envelope (fun l => list (l.map Enrollment.toValue)) r
  | usersReport, (r : Except String String) => envelope text r
  | logins _, (r : Except String (List DirectoryLogin)) => envelope (fun l => list (l.map DirectoryLogin.toValue)) r
  | assignSisId _ _, (r : Except String Unit) => envelope (fun _ => null) r
  | channels _, (r : Except String (List Channel)) => envelope (fun l => list (l.map Channel.toValue)) r
  | deleteChannel _ _, (r : Except String Unit) => envelope (fun _ => null) r
  | importSheet _, (r : Except String Unit) => envelope (fun _ => null) r

/-- How texts about the reply name the call. -/
def context (c : Service) : String :=
  match c.family with
  | .directory => c.method
  | p => s!"{p.name}::{c.method}"

/-- The reply of a service that has no way to refuse. -/
def plain {α : Type} (c : Service) (a : Option α) : Except String α :=
  match a with
  | some a => .ok a
  | none => .error (unreadable c.context)

/-- Reads the reply of a call from what came of it; without one the run is halted. -/
def reply (v : Value) : (c : Service) → Except String c.Reply
  | now => (now.plain (v.text?.bind Instant.parse?) : Except String Instant)
  | freshId => freshId.plain v.text?
  | fileText path => .ok (openEnvelope (fileText path).context text? v)
  | writeFile path contents => .ok (openEnvelope (writeFile path contents).context unit? v)
  | fileExists path => (fileExists path).plain v.bool?
  | listFolder path => .ok (openEnvelope (listFolder path).context (items? text?) v)
  | people uids => .ok (openEnvelope (people uids).context (items? Person.ofValue?) v)
  | enrollments term sections => .ok (openEnvelope (enrollments term sections).context (items? Enrollment.ofValue?) v)
  | usersReport => .ok (openEnvelope usersReport.context text? v)
  | logins user => .ok (openEnvelope (logins user).context (items? DirectoryLogin.ofValue?) v)
  | assignSisId login id => .ok (openEnvelope (assignSisId login id).context unit? v)
  | channels user => .ok (openEnvelope (channels user).context (items? Channel.ofValue?) v)
  | deleteChannel user channel => .ok (openEnvelope (deleteChannel user channel).context unit? v)
  | importSheet sheet => .ok (openEnvelope (importSheet sheet).context unit? v)

/-- An instant reads back as it was put on the tape, if its text does. -/
theorem reply_output_now {t : Instant} (h : Instant.parse? t.shortText = some t) :
    reply (output now t) now = .ok t := by
  simp only [reply, output, text?, Option.bind_some, h]
  rfl

/-- Any other reply reads back as it was put on the tape. -/
theorem reply_output {c : Service} (hc : c ≠ now) (r : c.Reply) : reply (c.output r) c = .ok r := by
  cases c with
  | now => exact absurd rfl hc
  | freshId | fileExists => rfl
  | fileText | usersReport => exact congrArg Except.ok (openEnvelope_envelope _ text?_text r)
  | writeFile | assignSisId | deleteChannel | importSheet =>
    exact congrArg Except.ok (openEnvelope_envelope _ unit?_null r)
  | listFolder => exact congrArg Except.ok (openEnvelope_envelope _ (fun _ => items?_list_map text?_text) r)
  | people => exact congrArg Except.ok (openEnvelope_envelope _ (fun _ => items?_list_map Person.ofValue?_toValue) r)
  | enrollments =>
    exact congrArg Except.ok (openEnvelope_envelope _ (fun _ => items?_list_map Enrollment.ofValue?_toValue) r)
  | logins =>
    exact congrArg Except.ok (openEnvelope_envelope _ (fun _ => items?_list_map DirectoryLogin.ofValue?_toValue) r)
  | channels => exact congrArg Except.ok (openEnvelope_envelope _ (fun _ => items?_list_map Channel.ofValue?_toValue) r)

/-- The reply when the call fails for a reason outside the service: a service that cannot refuse halts the run. -/
def refuse (reason : String) : (c : Service) → Except String c.Reply
  | now | freshId | fileExists _ => .error reason
  | fileText _ | writeFile _ _ | listFolder _ | people _ | enrollments _ _ | usersReport | logins _
  | assignSisId _ _ | channels _ | deleteChannel _ _ | importSheet _ => .ok (.error reason)

end Service

end Registrar
