import Registrar.Calendar.Instant
import Registrar.Host.Url
import Registrar.Path
import Registrar.World.Program

/-!
# The host

What the program needs of the machine that it runs on: variables of the environment, a clock, a disk, a network and two
streams to write to. A disk gives a `DiskError` where it refuses.
-/

namespace Registrar

/-- Why a disk refuses. -/
inductive DiskError where
  /-- Nothing is there. -/
  | missing
  /-- Something is there already. -/
  | occupied
  /-- A file stands where a folder is wanted. -/
  | notFolder
  /-- A folder stands where a file is wanted. -/
  | isFolder
  /-- A name is longer than a disk can hold. -/
  | longName
  /-- A path holds the character that ends texts on a disk. -/
  | brokenName
  /-- Any other reason. -/
  | other (reason : String)
  deriving DecidableEq

/-- The wording of a refusal. -/
def DiskError.message : DiskError → String
  | missing => "No such file or directory (os error 2)"
  | occupied => "File exists (os error 17)"
  | notFolder => "Not a directory (os error 20)"
  | isFolder => "Is a directory (os error 21)"
  | longName => "File name too long (os error 36)"
  | brokenName => "file name contained an unexpected NUL byte"
  | other reason => reason

/-- The methods of requests. -/
inductive HttpMethod where
  | get | post | put | delete
  deriving DecidableEq

/-- The name of a method. -/
def HttpMethod.name : HttpMethod → String
  | get => "GET"
  | post => "POST"
  | put => "PUT"
  | delete => "DELETE"

/-- A request. -/
structure HttpRequest where
  method : HttpMethod
  url : Url
  /-- The header that says who asks. -/
  authorization : String
  /-- The header that says what the body is, if there is one. -/
  contentType : Option String := none
  body : String := ""
  deriving DecidableEq

/-- A response that has arrived whole. -/
structure HttpResponse where
  status : Nat
  body : String
  deriving DecidableEq

/-- A call to the host. -/
inductive HostCall where
  /-- A variable of the environment. -/
  | environment (name : String)
  | now
  /-- A text that is never given twice. -/
  | freshId
  | readFile (path : Path)
  | writeFile (path : Path) (text : String)
  /-- Whether there is anything at a path. -/
  | isPresent (path : Path)
  /-- Makes a folder and those above it. -/
  | makeFolders (path : Path)
  /-- The names in a folder, in no order. -/
  | listFolder (path : Path)
  | send (request : HttpRequest)
  | pause (seconds : Nat)
  /-- Writes to the output of the program. -/
  | print (text : String)
  /-- Writes a remark beside the output. -/
  | remark (text : String)
  deriving DecidableEq

/-- What the host replies. -/
def HostCall.Reply : HostCall → Type
  | environment _ => Option String
  | now => Instant
  | freshId => String
  | readFile _ => Except DiskError String
  | writeFile _ _ => Except DiskError Unit
  | isPresent _ => Bool
  | makeFolders _ => Except DiskError Unit
  | listFolder _ => Except DiskError (List String)
  | send _ => Except String HttpResponse
  | pause _ => Unit
  | print _ => Unit
  | remark _ => Unit

/-- The interface of the host. -/
def host : Interface := ⟨HostCall, HostCall.Reply⟩

/-- A computation on the host. -/
abbrev HostAction := Program host

namespace HostAction

/-- A variable of the environment. -/
def environment (name : String) : HostAction (Option String) := Program.ask (I := host) (.environment name)

/-- The time. -/
def now : HostAction Instant := Program.ask (I := host) .now

/-- A text that is never given twice. -/
def freshId : HostAction String := Program.ask (I := host) .freshId

/-- The text of a file. -/
def readFile (path : Path) : HostAction (Except DiskError String) := Program.ask (I := host) (.readFile path)

/-- Writes a file. -/
def writeFile (path : Path) (text : String) : HostAction (Except DiskError Unit) :=
  Program.ask (I := host) (.writeFile path text)

/-- Whether there is anything at a path. -/
def isPresent (path : Path) : HostAction Bool := Program.ask (I := host) (.isPresent path)

/-- Makes a folder and those above it. -/
def makeFolders (path : Path) : HostAction (Except DiskError Unit) := Program.ask (I := host) (.makeFolders path)

/-- The names in a folder. -/
def listFolder (path : Path) : HostAction (Except DiskError (List String)) :=
  Program.ask (I := host) (.listFolder path)

/-- Sends a request. -/
def send (request : HttpRequest) : HostAction (Except String HttpResponse) :=
  Program.ask (I := host) (.send request)

/-- Waits. -/
def pause (seconds : Nat) : HostAction Unit := Program.ask (I := host) (.pause seconds)

/-- Writes to the output of the program. -/
def print (text : String) : HostAction Unit := Program.ask (I := host) (.print text)

/-- Writes a remark beside the output. -/
def remark (text : String) : HostAction Unit := Program.ask (I := host) (.remark text)

end HostAction

end Registrar
