import Registrar.Document.Json
import Registrar.Host.Services
import Registrar.Release
import Registrar.Tape.Replaying
import Registrar.Yaml.Typed

/-!
# Tape files

A recording is a folder with one file for each family. A file says what its tape is called, when and with what it was
made, and lists the calls; it is a document on one line, in the notation that brackets and braces give.
`Recording.start` and `Recording.finish` make such a folder, `Playback.load` reads the files back.
-/

namespace Registrar

namespace Tape

/-- The name of the file of a family. -/
def fileName (p : Family) : String := p.name ++ ".cassette.yaml"

/-! ## Writing -/

/-- A call at its position. -/
def callValue (i : Interaction) (position : Nat) : Value :=
  .record [("seq", .number position), ("port", .text i.family), ("method", .text i.method), ("input", i.input),
    ("output", i.output)]

/-- The document of a tape. -/
def document (name : String) (recordedAt : Instant) (t : Tape) : Value :=
  .record [("name", .text name), ("recorded_at", .text recordedAt.shortText), ("recorded_with", .text version),
    ("interactions", .list (t.zipIdx.map fun (i, position) => callValue i position))]

/-- The text of a tape file. -/
def fileText (name : String) (recordedAt : Instant) (t : Tape) : String :=
  Json.write (document name recordedAt t) ++ "\n"

/-! ## Reading -/

/-- The value of a scalar that stands plainly: nothing, a truth value, a number, or else a text. -/
def plainValue (text : String) : Value :=
  let n : Yaml.Node := .scalar text .plain none
  if text.isEmpty || Yaml.Node.isNullText text then .null
  else match n.bool?, Yaml.Node.signed? text.toList with
    | some b, _ => .bool b
    | none, some i => .number i
    | none, none => match Json.number? text.toList with
      | some v => v
      | none => .text text

mutual

/-- What a node says; the keys of a map are texts. -/
def ofNode? : Yaml.Node → Option Value
  | .scalar text .plain _ => some (plainValue text)
  | .scalar text _ _ => some (.text text)
  | .list items => (itemsOf? items).map .list
  | .map entries => (fieldsOf? entries).map .record
  | .loop => none

/-- What the items of a list say. -/
def itemsOf? : List Yaml.Node → Option (List Value)
  | [] => some []
  | n :: rest => do return (← ofNode? n) :: (← itemsOf? rest)

/-- What the entries of a map say. -/
def fieldsOf? : List (Yaml.Node × Yaml.Node) → Option (List (String × Value))
  | [] => some []
  | (k, v) :: rest => do return (← k.text?, ← ofNode? v) :: (← fieldsOf? rest)

end

/-- Reads a call. -/
def call? (v : Value) : Option Interaction := do
  let field ← v.fields? ["seq", "port", "method", "input", "output"]
  let _ ← Value.required Value.id? (field "seq")
  return {
    family := ← Value.required Value.text? (field "port")
    method := ← Value.required Value.text? (field "method")
    input := ← field "input"
    output := ← field "output" }

/-- Reads the document of a tape. -/
def ofDocument? (v : Value) : Option Tape := do
  let field ← v.fields? ["name", "recorded_at", "recorded_with", "interactions"]
  let _ ← Value.required Value.text? (field "name")
  let _ ← Instant.parse? (← Value.required Value.text? (field "recorded_at"))
  let _ ← Value.required Value.text? (field "recorded_with")
  Value.required (Value.items? call?) (field "interactions")

/-- Reads the text of a tape file. -/
def read? (text : String) : Option Tape := do ofDocument? (← ofNode? (← Yaml.Node.read? text))

end Tape

/-! ## Recordings -/

namespace Recording

/-- Makes the folder of a recording, which must be new, and gives its path and its stamp. -/
def start (base : Path) : HostAction (Except String (Path × String)) := do
  let stamp := (← HostAction.now).recordingStamp
  let folder := Path.join base stamp
  if ← HostAction.isPresent folder then return .error s!"Cassette directory already exists: {folder}"
  match ← HostAction.makeFolders folder with
  | .ok () => return .ok (folder, stamp)
  | .error e => return .error s!"Failed to create cassette directory: {e.message}"

/-- Writes the tape of a family. -/
def saveTape (folder : Path) (stamp : String) (tapes : Tapes) (p : Family) : HostAction (Except String Unit) := do
  let text := Tape.fileText s!"{stamp}-{p.name}" (← HostAction.now) (tapes.get p)
  match ← HostServices.writeFile (Path.join folder (Tape.fileName p)) text with
  | .ok () => return .ok ()
  | .error e => return .error s!"Failed to write {p.name} cassette: {e.message}"

/-- Writes the tapes of families, up to the first that cannot be written. -/
def saveAll (folder : Path) (stamp : String) (tapes : Tapes) : List Family → HostAction (Except String Unit)
  | [] => return .ok ()
  | p :: rest => (saveTape folder stamp tapes p).andThen fun () => saveAll folder stamp tapes rest

/-- Writes all tapes and remarks where they are. -/
def finish (folder : Path) (stamp : String) (tapes : Tapes) : HostAction (Except String Unit) :=
  (saveAll folder stamp tapes Family.all).andThen fun () => do
    HostAction.remark s!"Recording saved to: {folder}\n"
    return .ok ()

end Recording

/-! ## Loading -/

namespace Playback

/-- Reads a tape file. -/
def loadTape (path : Path) : HostAction (Except String Tape) := do
  match ← HostAction.readFile path with
  | .error e => return .error s!"Failed to read cassette file {path}: {e.message}"
  | .ok text => match Tape.read? text with
    | some t => return .ok t
    | none => return .error s!"Failed to parse cassette file {path}: it holds no tape"

/-- Reads the tape files of families into a playback, up to the first that cannot be read. -/
def loadAll (paths : PerFamily (Option Path)) (loaded : Playback) : List Family → HostAction (Except String Playback)
  | [] => return .ok loaded
  | p :: rest => match paths.get p with
    | none => loadAll paths loaded rest
    | some path => (loadTape path).andThen fun t => loadAll paths (loaded.set p (some t)) rest

/-- Reads the given tape files. -/
def load (paths : PerFamily (Option Path)) : HostAction (Except String Playback) :=
  loadAll paths (.const none) Family.all

/-- The tape files that are present among those of families. -/
def present (folder : Path) (found : PerFamily (Option Path)) : List Family → HostAction (PerFamily (Option Path))
  | [] => return found
  | p :: rest => do
    let path := Path.join folder (Tape.fileName p)
    let found := if ← HostAction.isPresent path then found.set p (some path) else found
    present folder found rest

/-- Reads the tape files of a recording. -/
def loadFolder (folder : Path) : HostAction (Except String Playback) := do
  load (← present folder (.const none) Family.all)

end Playback

end Registrar
