import Registrar.Calendar.Instant
import Registrar.Campus
import Registrar.Directory.Account
import Registrar.Path
import Registrar.World.Program

/-!
# Services

The services that a run relies on: a clock, a source of run names, files, the campus feed and the directory. A reply is
an `Except String` where the service may refuse; the text says why.
-/

namespace Registrar

/-- A call to one of the services. -/
inductive Service where
  | now
  /-- A name for a run, never given twice. -/
  | freshId
  | fileText (path : Path)
  | writeFile (path : Path) (contents : String)
  | fileExists (path : Path)
  /-- The names in a folder. -/
  | listFolder (path : Path)
  /-- The people with these campus IDs. -/
  | people (uids : List String)
  /-- The students of these sections of a term. -/
  | enrollments (term : String) (sections : List String)
  /-- The report of all provisioned accounts. -/
  | usersReport
  | logins (user : String)
  | assignSisId (login : UInt64) (sisId : String)
  | channels (user : String)
  | deleteChannel (user : String) (channel : UInt64)
  /-- Submits a sheet of account updates or ID changes. -/
  | importSheet (text : String)
  deriving DecidableEq

/-- What a service replies. -/
def Service.Reply : Service → Type
  | now => Instant
  | freshId => String
  | fileText _ => Except String String
  | writeFile _ _ => Except String Unit
  | fileExists _ => Bool
  | listFolder _ => Except String (List String)
  | people _ => Except String (List Person)
  | enrollments _ _ => Except String (List Enrollment)
  | usersReport => Except String String
  | logins _ => Except String (List DirectoryLogin)
  | assignSisId _ _ => Except String Unit
  | channels _ => Except String (List Channel)
  | deleteChannel _ _ => Except String Unit
  | importSheet _ => Except String Unit

/-- The interface of the services. -/
def services : Interface := ⟨Service, Service.Reply⟩

/-- A computation over the services. -/
abbrev Action := Program services

namespace Action

/-- The time. -/
def now : Action Instant := Program.ask (I := services) .now

/-- A fresh run name. -/
def freshId : Action String := Program.ask (I := services) .freshId

/-- The text of a file. -/
def fileText (path : Path) : Action (Except String String) := Program.ask (I := services) (.fileText path)

/-- Writes a file. -/
def writeFile (path : Path) (contents : String) : Action (Except String Unit) :=
  Program.ask (I := services) (.writeFile path contents)

/-- Whether a path exists. -/
def fileExists (path : Path) : Action Bool := Program.ask (I := services) (.fileExists path)

/-- The names in a folder. -/
def listFolder (path : Path) : Action (Except String (List String)) := Program.ask (I := services) (.listFolder path)

/-- The people with these campus IDs. -/
def people (uids : List String) : Action (Except String (List Person)) := Program.ask (I := services) (.people uids)

/-- The students of sections. -/
def enrollments (term : String) (sections : List String) : Action (Except String (List Enrollment)) :=
  Program.ask (I := services) (.enrollments term sections)

/-- The report of all provisioned accounts. -/
def usersReport : Action (Except String String) := Program.ask (I := services) .usersReport

/-- The logins of a user. -/
def logins (user : String) : Action (Except String (List DirectoryLogin)) :=
  Program.ask (I := services) (.logins user)

/-- Gives a login a SIS ID. -/
def assignSisId (login : UInt64) (sisId : String) : Action (Except String Unit) :=
  Program.ask (I := services) (.assignSisId login sisId)

/-- The contact channels of a user. -/
def channels (user : String) : Action (Except String (List Channel)) := Program.ask (I := services) (.channels user)

/-- Deletes a contact channel. -/
def deleteChannel (user : String) (channel : UInt64) : Action (Except String Unit) :=
  Program.ask (I := services) (.deleteChannel user channel)

/-- Submits an import sheet. -/
def importSheet (text : String) : Action (Except String Unit) := Program.ask (I := services) (.importSheet text)

/-- Logs a line. -/
def log (line : LogLine) : Action Unit := Program.log line

/-- Logs lines in order. -/
def logAll (lines : List LogLine) : Action Unit := Program.logAll lines

end Action

end Registrar
