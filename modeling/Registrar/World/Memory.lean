import Registrar.Keyed
import Registrar.World.Service

/-!
# Services in memory

A `World` answers every service from data: a clock that stands still, numbered run names, files in memory, a campus feed
and a directory that can be told to fail. It keeps the calls and the writes that reached it, latest first.
-/

namespace Registrar

/-- Files in memory. -/
structure FileStore where
  files : List (Path × String) := []
  /-- Files that cannot be read. -/
  unreadable : List Path := []
  /-- Files that cannot be written. -/
  unwritable : List Path := []
  /-- Folders are listed in descending order. -/
  descending : Bool := false
  /-- The paths that were written, latest first. -/
  written : List Path := []

namespace FileStore

/-- Whether two paths have the same components. -/
def same (p q : Path) : Bool := Path.components p = Path.components q

/-- The text of a file. -/
def text? (s : FileStore) (p : Path) : Option String := (s.files.find? fun (q, _) => same p q).map Prod.snd

/-- Reads a file. -/
def read (s : FileStore) (p : Path) : Except String String :=
  if s.unreadable.any (same p) then .error "permission denied"
  else match s.text? p with
    | some text => .ok text
    | none => .error "not found"

/-- Writes a file. -/
def write (s : FileStore) (p : Path) (text : String) : Except String Unit × FileStore :=
  if s.unwritable.any (same p) then (.error "disk full", s)
  else
    let files := if (s.text? p).isSome then s.files.map fun (q, t) => if same p q then (q, text) else (q, t)
      else s.files ++ [(p, text)]
    (.ok (), { s with files, written := p :: s.written })

/-- Whether a path is a file or a folder above one. -/
def holds (s : FileStore) (p : Path) : Bool :=
  s.files.any fun (q, _) => (Path.components p).isPrefixOf (Path.components q)

/-- The names of the files directly inside a folder. -/
def list (s : FileStore) (folder : Path) : Except String (List String) :=
  let inside := s.files.filterMap fun (q, _) =>
    let cs := Path.components q
    if cs.dropLast = Path.components folder then cs.getLast? else none
  let names := inside.mergeSort fun a b => decide (a ≤ b)
  if names.isEmpty then .error "not found" else .ok (if s.descending then names.reverse else names)

end FileStore

/-- A campus feed in memory. -/
structure CampusFeed where
  people : List Person := []
  enrollments : List Enrollment := []
  /-- The reason why every query fails. -/
  failure : Option String := none
  /-- The numbers of the queries that fail, counted from zero. -/
  failing : List Nat := []
  /-- Every query is answered with everything. -/
  unfiltered : Bool := false

namespace CampusFeed

/-- Why the query with a number fails, if it does. -/
def refusal? (f : CampusFeed) (number : Nat) : Option String :=
  f.failure <|> if f.failing.contains number then some s!"call {number} failed" else none

/-- The people whose campus ID is asked for, in feed order. -/
def peopleOf (f : CampusFeed) (uids : List String) : List Person :=
  if f.unfiltered then f.people else f.people.filter fun p => uids.contains (Text.trim p.uid)

/-- The enrollments of the sections asked for, in feed order. -/
def enrollmentsOf (f : CampusFeed) (sections : List String) : List Enrollment :=
  if f.unfiltered then f.enrollments else f.enrollments.filter fun e => sections.contains e.ccn

end CampusFeed

/-- A directory in memory. -/
structure DirectoryModel where
  report : Option String := none
  logins : Keyed (List DirectoryLogin) := Keyed.empty
  channels : Keyed (List Channel) := Keyed.empty
  /-- Logins that take no other SIS ID. -/
  rejectedLogins : List UInt64 := []
  /-- Channels that cannot be deleted. -/
  rejectedChannels : List UInt64 := []
  /-- The numbers of the imports that are refused, counted from zero. -/
  rejectedImports : List Nat := []

/-- All services in memory. -/
structure World where
  now : Instant
  /-- The number of run names given. -/
  runs : Nat := 0
  files : FileStore := {}
  campus : CampusFeed := {}
  directory : DirectoryModel := {}
  /-- The calls of the campus feed, latest first. -/
  campusCalls : List Service := []
  /-- The calls of the directory, latest first. -/
  directoryCalls : List Service := []

namespace World

/-- Accepts a call unless there is a reason against it. -/
def accept (refused : Bool) (reason : String) : Except String Unit := if refused then .error reason else .ok ()

/-- The reply about a user that the directory may not know. -/
def ofUser {α : Type} (m : Keyed α) (user : String) : Except String α :=
  match m.get? user with
  | some a => .ok a
  | none => .error s!"404 no user {user}"

/-- The number of imports so far. -/
def importCount (w : World) : Nat := w.directoryCalls.countP fun c => match c with
  | .importSheet _ => true
  | _ => false

/-- Keeps a call of the campus feed. -/
def noteCampus (w : World) (c : Service) : World := { w with campusCalls := c :: w.campusCalls }

/-- Keeps a call of the directory. -/
def noteDirectory (w : World) (c : Service) : World := { w with directoryCalls := c :: w.directoryCalls }

/-- The reply to a query of the campus feed. -/
def query {α : Type} (w : World) (found : List α) : Except String (List α) :=
  match w.campus.refusal? w.campusCalls.length with
  | some reason => .error reason
  | none => .ok found

/-- Answers a call. -/
def answer (w : World) (c : Service) : c.Reply × World :=
  match c with
  | .now => (w.now, w)
  | .freshId => (s!"run-{w.runs + 1}", { w with runs := w.runs + 1 })
  | .fileText p => (w.files.read p, w)
  | .writeFile p text =>
    let (reply, files) := w.files.write p text
    (reply, { w with files })
  | .fileExists p => (w.files.holds p, w)
  | .listFolder p => (w.files.list p, w)
  | .people uids => (w.query (w.campus.peopleOf uids), w.noteCampus (.people uids))
  | .enrollments term sections =>
    (w.query (w.campus.enrollmentsOf sections), w.noteCampus (.enrollments term sections))
  | .usersReport => (match w.directory.report with
    | some text => .ok text
    | none => .error "401 Unauthorized", w.noteDirectory .usersReport)
  | .logins user => (ofUser w.directory.logins user, w.noteDirectory (.logins user))
  | .assignSisId login id =>
    (accept (w.directory.rejectedLogins.contains login) "400 sis_user_id already in use",
      w.noteDirectory (.assignSisId login id))
  | .channels user => (ofUser w.directory.channels user, w.noteDirectory (.channels user))
  | .deleteChannel user channel =>
    (accept (w.directory.rejectedChannels.contains channel) "403 forbidden",
      w.noteDirectory (.deleteChannel user channel))
  | .importSheet text =>
    (accept (w.directory.rejectedImports.contains w.importCount) "500 import queue unavailable",
      w.noteDirectory (.importSheet text))

/-- The handler of the services in memory; it never halts a run. -/
def handler : Handler services World := fun c w =>
  let (reply, w) := w.answer c
  (.ok reply, w)

/-- The files that were written, each with its final text, in the order of writing. -/
def writes (w : World) : List (Path × String) :=
  w.files.written.reverse.map fun p => (p, (w.files.text? p).getD "")

end World

end Registrar
