import Registrar.CommandLine.Run
import Registrar.Host.FreshName
import Std.Time.DateTime.Timestamp

/-!
# The program

Carries out calls to the host on the machine that the program runs on. There is no network here: a request is answered
with a reason why it was not sent.
-/

namespace Registrar

namespace Native

/-- Why the machine refused; a code may come with either sign. -/
def diskError : IO.Error → DiskError
  | .noFileOrDirectory .. => .missing
  | .alreadyExists .. => .occupied
  | .inappropriateType _ code _ => if code = 20 ∨ code = 0 - 20 then .notFolder else .isFolder
  | e => .other (toString e)

/-- Carries out an action that the machine may refuse. -/
def attempt {α : Type} (action : IO α) : IO (Except DiskError α) := do
  match ← action.toBaseIO with
  | .ok a => return .ok a
  | .error e => return .error (diskError e)

/-- The time. -/
def now : IO Instant := do
  let t ← Std.Time.Timestamp.now
  return .sinceEpoch t.toSecondsSinceUnixEpoch.val.toNat t.toNanosecondsSinceUnixEpoch.val.toNat

/-- Sixteen random bytes as a text of hexadecimal digits in groups. -/
def freshId : IO String := do return FreshName.ofBytes (← IO.getRandomBytes 16).toList

/-- Whether there is anything at a path. -/
def isPresent (path : String) : IO Bool := do
  match ← (IO.FS.Handle.mk path .read).toBaseIO with
  | .ok _ => return true
  | .error _ => return false

/-- The names in a folder. -/
def listFolder (path : String) : IO (List String) := do
  return (← (← IO.FS.realPath path).readDir).toList.map fun entry => entry.fileName

/-- Writes a text to a stream at once. -/
def emit (stream : IO.FS.Stream) (text : String) : IO Unit := do
  stream.putStr text
  stream.flush

/-- Carries out a call. -/
def answer : (c : HostCall) → IO c.Reply
  | .environment name => IO.getEnv name
  | .now => now
  | .freshId => freshId
  | .readFile path => attempt (IO.FS.readFile path)
  | .writeFile path text => attempt (IO.FS.writeFile path text)
  | .isPresent path => isPresent path
  | .makeFolders path => attempt (if path.isEmpty then pure () else IO.FS.createDirAll path)
  | .listFolder path => attempt (listFolder path)
  | .send request => return .error s!"there is no network to reach {request.url.origin}"
  | .pause seconds => IO.sleep (UInt32.ofNat (seconds * 1000))
  | .print text => do emit (← IO.getStdout) text
  | .remark text => do emit (← IO.getStderr) text

/-- Shows a line of the log, unless it is about details. -/
def showLine (line : LogLine) : IO Unit := do
  if line.level ≠ .debug then emit (← IO.getStderr) (line.shown ++ "\n")

/-- Carries out a computation. -/
def perform {α : Type} : HostAction α → IO α
  | .done a => return a
  | .call c next => do perform (next (← answer c))
  | .note line next => do
    showLine line
    perform next

end Native

end Registrar

/-- Runs the program; the exit code says whether it succeeded. -/
def main (arguments : List String) : IO UInt32 := do
  match ← Registrar.Native.perform (Registrar.CommandLine.run arguments) with
  | .ok () => return 0
  | .error e =>
    Registrar.Native.emit (← IO.getStderr) (e.message ++ "\n")
    return 1
