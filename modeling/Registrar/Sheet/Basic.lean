import Registrar.Keyed
import Registrar.Sheet.Check

/-!
# Sheets

A `Sheet k` is a keyed collection of rows of one kind. Rows keep the order in which their keys came; an export sorts
them by the order of the kind and leaves ties as they are (`Sheet.sortedRows`).
-/

namespace Registrar

/-- Rows of one kind under distinct keys. -/
structure Sheet (k : Kind) where
  rows : Keyed (Row k) := Keyed.empty
  /-- The name that replaces the name of the kind. -/
  name : Option String := none
  deriving DecidableEq

namespace Sheet

variable {k : Kind}

/-- A sheet without rows. -/
def empty (k : Kind) : Sheet k := {}

instance : Inhabited (Sheet k) := ⟨empty k⟩

/-- A sheet without rows that is exported under a name of its own. -/
def named (k : Kind) (name : String) : Sheet k := { name := some name }

/-- Keys and rows, oldest key first. -/
def entries (s : Sheet k) : List (String × Row k) := s.rows.entries

/-- The rows, in the order of their keys. -/
def toList (s : Sheet k) : List (Row k) := s.rows.values

/-- The number of rows. -/
def size (s : Sheet k) : Nat := s.rows.size

/-- The row under a key. -/
def get? (s : Sheet k) (key : String) : Option (Row k) := s.rows.get? key

/-- Whether a row stands under a key. -/
def contains (s : Sheet k) (key : String) : Bool := s.rows.contains key

/-- Stores a row under a key; a present key keeps its place. -/
def insert (s : Sheet k) (key : String) (r : Row k) : Sheet k := { s with rows := s.rows.insert key r }

/-- Stores a row under a key unless the key is present. -/
def insertNew (s : Sheet k) (key : String) (r : Row k) : Sheet k := { s with rows := s.rows.insertNew key r }

/-- Changes the row under a key, if there is one. -/
def modify (s : Sheet k) (key : String) (f : Row k → Row k) : Sheet k :=
  match s.get? key with
  | some r => s.insert key (f r)
  | none => s

/-- The rows keyed by their position. -/
def ofRows (k : Kind) (rows : List (Row k)) : Sheet k :=
  { rows := Keyed.ofList (rows.zipIdx.map fun (r, i) => (toString i, r)) }

/-- The rows whose text under a column is `value`. -/
def matching (s : Sheet k) (c : Column) (value : String) : List (Row k) := s.toList.filter fun r => r.get c = value

/-- What a row is sorted by. -/
def sortKey (r : Row k) : List String := k.exportOrder.map r.get

/-- Whether one key sorts before another or equals it. -/
def inOrder : List String → List String → Bool
  | [], _ => true
  | _ :: _, [] => false
  | a :: as, b :: bs => if a = b then inOrder as bs else decide (a < b)

/-- The rows in export order; rows with equal sort keys keep their order. -/
def sortedRows (s : Sheet k) : List (Row k) := s.toList.mergeSort fun a b => inOrder (sortKey a) (sortKey b)

/-- The name under which the sheet is exported. -/
def exportName (s : Sheet k) : String := s.name.getD k.exportName

/-- The name of the sheet's file. -/
def fileName (s : Sheet k) : String := s.exportName ++ ".csv"

end Sheet

end Registrar
