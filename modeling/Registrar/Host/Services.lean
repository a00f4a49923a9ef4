import Registrar.Campus.Export
import Registrar.Directory.Remote
import Registrar.World.Service

/-!
# Services on a host

`carryOut` carries out every service on a host: files on its disk, the campus feed from exports, the directory over the
network. `onHost` runs a whole program that way.
-/

namespace Registrar

/-- A text for a refusal of the disk. -/
def diskResult {α : Type} (say : DiskError → String) : Except DiskError α → Except String α
  | .ok a => .ok a
  | .error e => .error (say e)

namespace HostServices

/-- The text of a file. -/
def fileText (path : Path) : HostAction (Except String String) := do
  return diskResult (fun e => s!"cannot read {path}: {e.message}") (← HostAction.readFile path)

/-- Makes the folder above a file, if it has one. -/
def makeFolderOf (path : Path) : HostAction (Except DiskError Unit) :=
  match Path.parent? path with
  | some folder => HostAction.makeFolders folder
  | none => return .ok ()

/-- Writes a file; its folder is made first. -/
def writeFile (path : Path) (contents : String) : HostAction (Except DiskError Unit) :=
  (makeFolderOf path).andThen fun () => HostAction.writeFile path contents

/-- The names in a folder, sorted. -/
def listFolder (path : Path) : HostAction (Except String (List String)) := do
  match ← HostAction.listFolder path with
  | .ok names => return .ok (names.mergeSort fun a b => decide (a ≤ b))
  | .error e => return .error e.message

end HostServices

open HostServices in
/-- Carries out a service. -/
def carryOut (s : Settings) : (c : Service) → HostAction c.Reply
  | .now => HostAction.now
  | .freshId => HostAction.freshId
  | .fileText path => fileText path
  | .writeFile path contents => do return diskResult DiskError.message (← writeFile path contents)
  | .fileExists path => HostAction.isPresent path
  | .listFolder path => listFolder path
  | .people uids => Export.people s.campus.exportDir uids
  | .enrollments term sections => Export.enrollments s.campus.exportDir term sections
  | .usersReport => Remote.usersReport s.directory
  | .logins user => Remote.logins s.directory user
  | .assignSisId login sisId => Remote.assignSisId s.directory login sisId
  | .channels user => Remote.channels s.directory user
  | .deleteChannel user channel => Remote.deleteChannel s.directory user channel
  | .importSheet text => Remote.importSheet s.directory text

/-- Runs a program of services on a host. -/
def onHost {α : Type} (s : Settings) (p : Action α) : HostAction α := p.lower (carryOut s)

end Registrar
