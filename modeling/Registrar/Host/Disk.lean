import Registrar.Host.Interface
import Registrar.Text.Split

/-!
# A disk

A `Disk` is a tree of folders and files. A path is followed step by step from the working folder: every step but the
last must lead to a folder. `.` and an empty step stay where they are, `..` goes back. Names and paths have a greatest
length.
-/

namespace Registrar

/-- A place on a disk: the names that lead there from the working folder; places elsewhere begin with `/`. -/
abbrev DiskPlace := List String

/-- Folders and files. -/
structure Disk where
  /-- The folders besides the working folder and the root. -/
  folders : List DiskPlace := []
  files : List (DiskPlace × String) := []

namespace Disk

/-- The steps of a path. -/
def steps (p : Path) : List String :=
  let pieces := (Text.splitAt '/' p.toList).map String.ofList
  if Path.isAbsolute p then "/" :: pieces else pieces

/-- Whether there is a folder. -/
def isFolder (d : Disk) (place : DiskPlace) : Bool := place.isEmpty || place = ["/"] || d.folders.contains place

/-- The text of a file. -/
def text? (d : Disk) (place : DiskPlace) : Option String := d.files.lookup place

/-- Whether there is anything. -/
def holds (d : Disk) (place : DiskPlace) : Bool := d.isFolder place || (d.text? place).isSome

/-- The number of bytes of the longest name. -/
def maxName : Nat := 255

/-- The number of bytes that a path stays below. -/
def pathLimit : Nat := 4096

/-- Whether a name is longer than a disk can hold. -/
def isLong (name : String) : Bool := maxName < name.utf8ByteSize

/-- The steps of a path that a disk can follow: not empty, not too long, and without the character that ends texts. -/
def followable (p : Path) : Except DiskError (List String) :=
  if p.contains '\x00' then .error .brokenName
  else if p.isEmpty then .error .missing
  else if pathLimit ≤ p.utf8ByteSize then .error .longName
  else .ok (steps p)

/-- Takes one step from a place. -/
def step (d : Disk) (place : DiskPlace) (name : String) : Except DiskError DiskPlace :=
  if !d.isFolder place then .error .notFolder
  else if name = "" || name = "." then .ok place
  else if name = ".." then .ok (if place = ["/"] then place else place.dropLast)
  else if isLong name then .error .longName
  else if d.holds (place ++ [name]) then .ok (place ++ [name])
  else .error .missing

/-- Where steps lead. -/
def follow (d : Disk) (steps : List String) : Except DiskError DiskPlace := steps.foldlM d.step []

/-- Where a path leads. -/
def find (d : Disk) (p : Path) : Except DiskError DiskPlace := do d.follow (← followable p)

/-- Whether there is anything at a path. -/
def isPresent (d : Disk) (p : Path) : Bool := match d.find p with
  | .ok _ => true
  | .error _ => false

/-- The text of the file at a path. -/
def read (d : Disk) (p : Path) : Except DiskError String := do
  let place ← d.find p
  match d.text? place with
  | some text => return text
  | none => .error .isFolder

/-- The names in the folder at a path. -/
def list (d : Disk) (p : Path) : Except DiskError (List String) := do
  let place ← d.find p
  if !d.isFolder place then .error .notFolder
  return (d.folders ++ d.files.map Prod.fst).filterMap fun q => if q.dropLast = place then q.getLast? else none

/-- Puts a text into a file, which may be new. -/
def put (d : Disk) (place : DiskPlace) (text : String) : Disk :=
  { d with files :=
      if (d.text? place).isSome then d.files.map fun (q, t) => (q, if q = place then text else t)
      else d.files ++ [(place, text)] }

/-- Writes the file at a path; its folder must be there. A slash behind the name makes it that of a folder. -/
def write (d : Disk) (p : Path) (text : String) : Except DiskError Disk := do
  let steps := (← followable p).reverse
  let slashed := steps.head? = some ""
  let names := (steps.dropWhile (·.isEmpty)).reverse
  let last := names.getLastD "."
  let folder ← d.follow names.dropLast
  if !d.isFolder folder then .error .notFolder
  if slashed || last = "." || last = ".." then .error .isFolder
  if isLong last then .error .longName
  let place := folder ++ [last]
  if d.isFolder place then .error .isFolder
  return d.put place text

/-- Makes one folder; the one above it must be there. -/
def makeFolder (d : Disk) (steps : List String) : Except DiskError Disk := do
  let last := steps.getLastD ""
  let above ← d.follow steps.dropLast
  if !d.isFolder above then .error .notFolder
  let place := above ++ [last]
  if last = "." || last = ".." then .error .occupied
  if isLong last then .error .longName
  if d.holds place then .error .occupied
  return { d with folders := d.folders ++ [place] }

/-- A refusal to make a folder does not count where there is one. -/
def unlessFolder (d : Disk) (steps : List String) (e : DiskError) : Except DiskError Unit :=
  match d.follow steps with
  | .ok place => if d.isFolder place then .ok () else .error e
  | .error _ => .error e

/-- Makes a folder, and those above it where they are missing; the steps are given from the last to the first. Folders
that have been made stay when a later one cannot be made. -/
def makeAll (d : Disk) : List String → Except DiskError Unit × Disk
  | [] => (.ok (), d)
  | name :: above =>
    let steps := (name :: above).reverse
    let last (d : Disk) : Except DiskError Unit × Disk := match d.makeFolder steps with
      | .ok d => (.ok (), d)
      | .error e => (d.unlessFolder steps e, d)
    match d.makeFolder steps with
    | .error .missing => match d.makeAll above with
      | (.ok (), d) => last d
      | (.error e, d) => (.error e, d)
    | _ => last d

/-- The names of a path that count. -/
def names (p : Path) : List String := (steps p).filter fun name => name ≠ "" && name ≠ "."

/-- Makes the folder at a path and those above it; an empty path asks for nothing. -/
def makeFolders (d : Disk) (p : Path) : Except DiskError Unit × Disk :=
  if p.isEmpty then (.ok (), d)
  else match followable p with
    | .ok _ => d.makeAll (names p).reverse
    | .error e => (.error e, d)

/-- A disk with these files, and the folders that they need. -/
def ofFiles (files : List (Path × String)) : Disk :=
  files.foldl (fun d (p, text) =>
    match d.makeAll (names p).dropLast.reverse with
    | (.ok (), d) => d.put (names p) text
    | (.error _, d) => d) {}

end Disk

end Registrar
