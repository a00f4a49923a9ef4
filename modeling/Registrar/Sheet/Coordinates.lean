import Registrar.Sheet.Text

/-!
# Cells by name

A cell is named by the letters of its column and the number of its row: the letters are a numeral in base 26 with the
digits `A` to `Z` for 1 to 26. `Sheet.report` names the cell of every fault of a sheet.
-/

namespace Registrar

/-- The letters of a one-based column, last letter first. -/
def columnLettersReversed (column : Nat) : List Char :=
  if column = 0 then []
  else Char.ofNat ('A'.toNat + (column - 1) % 26) :: columnLettersReversed ((column - 1) / 26)
termination_by column
decreasing_by omega

/-- The name of the cell at a one-based row and column. -/
def cellName (row column : Nat) : String :=
  String.ofList (columnLettersReversed column).reverse ++ toString row

/-- The unreadable dates of a text and the faults of its rows, one line each; the header is taken to be line 1. -/
def Sheet.report (k : Kind) (text : String) : Except Failure (List String) := do
  let reading ← Sheet.read k text
  let dates := reading.dateFailures.map fun (key, failure) => s!"row {key}: {failure.message}"
  let faults := reading.sheet.toList.zipIdx.flatMap fun (r, i) =>
    r.faults.map fun fault =>
      s!"{cellName (i + 2) (k.columns.idxOf fault.column + 1)}: {fault.message}"
  return dates ++ faults

end Registrar
