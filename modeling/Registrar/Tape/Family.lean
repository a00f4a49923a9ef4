/-!
# Families

The services fall into five families, each with a tape of its own. A `PerFamily α` has one `α` for each.
-/

namespace Registrar

/-- A group of services. -/
inductive Family where
  | clock | files | directory | campus | runIds
  deriving DecidableEq

namespace Family

/-- The name on a tape. -/
def name : Family → String
  | clock => "clock"
  | files => "fs"
  | directory => "directory"
  | campus => "campus"
  | runIds => "id_gen"

/-- The families in the order in which their tapes are kept. -/
def all : List Family := [clock, files, directory, campus, runIds]

theorem mem_all (p : Family) : p ∈ all := by cases p <;> decide

end Family

/-- One value for each family. -/
structure PerFamily (α : Type) where
  clock : α
  files : α
  directory : α
  campus : α
  runIds : α

namespace PerFamily

variable {α β : Type}

/-- The same value for every family. -/
def const (a : α) : PerFamily α := ⟨a, a, a, a, a⟩

/-- One value for each family by a rule. -/
def ofFn (f : Family → α) : PerFamily α := ⟨f .clock, f .files, f .directory, f .campus, f .runIds⟩

/-- The value of a family. -/
def get (t : PerFamily α) : Family → α
  | .clock => t.clock
  | .files => t.files
  | .directory => t.directory
  | .campus => t.campus
  | .runIds => t.runIds

/-- Changes the value of a family. -/
def set (t : PerFamily α) (p : Family) (a : α) : PerFamily α :=
  match p with
  | .clock => { t with clock := a }
  | .files => { t with files := a }
  | .directory => { t with directory := a }
  | .campus => { t with campus := a }
  | .runIds => { t with runIds := a }

@[simp] theorem get_const (a : α) (p : Family) : (const a).get p = a := by cases p <;> rfl

@[simp] theorem get_ofFn (f : Family → α) (p : Family) : (ofFn f).get p = f p := by cases p <;> rfl

theorem get_set (t : PerFamily α) (p q : Family) (a : α) : (t.set p a).get q = if q = p then a else t.get q := by
  cases p <;> cases q <;> rfl

/-- Two values agree when they agree at every family. -/
theorem ext_get {s t : PerFamily α} (h : ∀ p, s.get p = t.get p) : s = t := by
  cases s
  cases t
  simpa [get] using And.intro (h .clock)
    ⟨h .files, h .directory, h .campus, h .runIds⟩

end PerFamily

end Registrar
