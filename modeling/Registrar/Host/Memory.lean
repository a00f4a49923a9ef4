import Registrar.Host.Disk

/-!
# A host in memory

A `Machine` answers every call to the host from data: variables of the environment, a clock that stands still, a disk,
and a server that gives the responses of a script. It keeps the requests that reached the server and all that was
written to the two streams.
-/

namespace Registrar

/-- A server that gives the responses of a script, one for each request. -/
structure ScriptedServer where
  /-- The scheme and the server in the addresses that lead here. -/
  origin : String := "http://localhost"
  script : List HttpResponse := []
  /-- The last response of the script is given again and again. -/
  repeats : Bool := false
  /-- The requests that have arrived, latest first. -/
  received : List HttpRequest := []

namespace ScriptedServer

/-- The response behind the end of a script. -/
def exhausted : HttpResponse := ⟨500, "script exhausted"⟩

/-- The response to the next request. -/
def response (s : ScriptedServer) : HttpResponse :=
  match s.script[s.received.length]? with
  | some r => r
  | none => if s.repeats then s.script.getLastD exhausted else exhausted

/-- A response as it arrives: one that says that nothing follows has no body. -/
def delivered (r : HttpResponse) : HttpResponse := if r.status = 204 ∨ r.status = 304 then { r with body := "" } else r

/-- Answers a request. -/
def answer (s : ScriptedServer) (r : HttpRequest) : Except String HttpResponse × ScriptedServer :=
  if r.url.origin = s.origin then (.ok (delivered s.response), { s with received := r :: s.received })
  else (.error s!"no server at {r.url.origin}", s)

end ScriptedServer

/-- A host in memory. -/
structure Machine where
  now : Instant
  environment : List (String × String) := []
  disk : Disk := {}
  server : ScriptedServer := {}
  /-- The name of a run by its number. -/
  runName : Nat → String := fun n => s!"run-{n}"
  /-- The number of run names given. -/
  runs : Nat := 0
  /-- What was written to the output, latest first. -/
  printed : List String := []
  /-- What was written beside the output, latest first. -/
  remarks : List String := []

namespace Machine

/-- Answers a call. -/
def answer (m : Machine) (c : HostCall) : c.Reply × Machine :=
  match c with
  | .environment name => (m.environment.lookup name, m)
  | .now => (m.now, m)
  | .freshId => (m.runName (m.runs + 1), { m with runs := m.runs + 1 })
  | .readFile path => (m.disk.read path, m)
  | .writeFile path text => match m.disk.write path text with
    | .ok disk => (.ok (), { m with disk })
    | .error e => (.error e, m)
  | .isPresent path => (m.disk.isPresent path, m)
  | .makeFolders path =>
    let (reply, disk) := m.disk.makeFolders path
    (reply, { m with disk })
  | .listFolder path => (m.disk.list path, m)
  | .send request =>
    let (reply, server) := m.server.answer request
    (reply, { m with server })
  | .pause _ => ((), m)
  | .print text => ((), { m with printed := text :: m.printed })
  | .remark text => ((), { m with remarks := text :: m.remarks })

/-- The handler of the host in memory; it never halts a run. -/
def handler : Handler host Machine := fun c m =>
  let (reply, m) := m.answer c
  (.ok reply, m)

/-- All that was written to the output. -/
def output (m : Machine) : String := String.join m.printed.reverse

end Machine

end Registrar
