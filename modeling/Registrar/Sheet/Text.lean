import Registrar.Calendar.Date
import Registrar.Failure
import Registrar.Sheet.Basic
import Registrar.Text.Delimited

/-!
# Sheets as delimited text

A sheet is written as its header line and its exported cells in export order; a numeral gets an apostrophe in front
where the kind protects numerals. Reading skips records until one is the header line, keys the rows after it by
position, takes the apostrophe off again and stores dates in their normal form. A row with a text that names no date is
kept, and the failure is listed beside the sheet (`Sheet.read`); `Sheet.readStrict` refuses such a text.
-/

namespace Registrar

/-- The columns whose texts are dates. -/
def Column.dates : List Column := [.startDate, .endDate]

/-- A cell with an apostrophe in front of a numeral. -/
def protectNumeral (value : String) : String := if Text.isNumeral value then "'" ++ value else value

/-- A cell without the apostrophe in front of a numeral. -/
def unprotectNumeral (value : String) : String :=
  match Text.stripLead? "'" value with
  | some rest => if Text.isNumeral rest then rest else value
  | none => value

namespace Row

variable {k : Kind}

/-- The row that holds the fields under the exported columns from the left; surplus fields are dropped. -/
def ofFields (k : Kind) (fields : List String) : Row k := ofPairs k (k.exported.zip (fields.map unprotectNumeral))

/-- Normalizes one date column; a text that names no date stays and is reported. -/
def normalizeDate (r : Row k) (c : Column) : Row k × List Failure :=
  if c ∈ k.columns ∧ ¬ r.isBlankAt c then
    match Date.normalize? (r.get c) with
    | some text => (r.set c text, [])
    | none => (r, [.unreadableDate c (r.get c)])
  else (r, [])

/-- The row of a record and the failures of its dates. -/
def ofRecord (k : Kind) (record : Delimited.Record) : Row k × List Failure :=
  Column.dates.foldl (fun (r, failures) c =>
    let (r, more) := r.normalizeDate c
    (r, failures ++ more)) (ofFields k record, [])

end Row

namespace Sheet

variable {k : Kind}

/-- A sheet that was read, and the failures of its dates with the keys of their rows. -/
structure Reading (k : Kind) where
  sheet : Sheet k
  dateFailures : List (String × Failure)

/-- The records after the header line. -/
def dataRecords? (k : Kind) (records : List Delimited.Record) : Option (List Delimited.Record) :=
  match records.dropWhile fun record => record ≠ k.headerLine with
  | [] => none
  | _ :: data => some data

/-- Reads a sheet and keeps rows whose dates are unreadable. -/
def read (k : Kind) (text : String) : Except Failure (Reading k) :=
  match dataRecords? k (Delimited.read text) with
  | none => .error (.headerMismatch k text)
  | some data =>
    let rows := data.map (Row.ofRecord k)
    .ok ⟨ofRows k (rows.map Prod.fst),
      (rows.zipIdx.map fun ((_, failures), i) => failures.map fun f => (toString i, f)).flatten⟩

/-- Reads a sheet; the first unreadable date is a failure. -/
def readStrict (k : Kind) (text : String) : Except Failure (Sheet k) := do
  let reading ← read k text
  match reading.dateFailures with
  | [] => .ok reading.sheet
  | (_, failure) :: _ => .error failure

/-- The header line and the exported cells, each changed by `f`. -/
def writeWith (f : String → String) (s : Sheet k) : String :=
  Delimited.write (k.headerLine :: s.sortedRows.map fun r => r.exportedCells.map f)

/-- The text for a spreadsheet: numerals are protected where the kind asks for it. -/
def write (s : Sheet k) : String := s.writeWith (if k.protectsNumerals then protectNumeral else id)

/-- The text for another system: cells exactly as stored. -/
def writePlain (s : Sheet k) : String := s.writeWith id

end Sheet

end Registrar
