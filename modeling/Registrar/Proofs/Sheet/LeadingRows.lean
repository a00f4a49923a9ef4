import Registrar.Proofs.Text.Grammar
import Registrar.Sheet.Text

/-!
# Rows before the header line

Reading a sheet looks for the header line, so records before it are passed over (`dataRecords?_append`). A text with
complete records in front of it, none of which is the header line, is read as the text itself: whether it is a sheet at
all, which rows it has under which keys, and which of its dates are unreadable (`read_behind_leading_rows`).
-/

namespace Registrar.Sheet

open Delimited

variable {k : Kind} {lead : List Record} {p t : String}

theorem dataRecords?_append (h : k.headerLine ∉ lead) (records : List Record) :
    dataRecords? k (lead ++ records) = dataRecords? k records := by
  have hlead : ∀ record ∈ lead, decide (record ≠ k.headerLine) = true := fun record hmem =>
    decide_eq_true fun heq => h (heq ▸ hmem)
  rw [dataRecords?, List.dropWhile_append_of_pos hlead, dataRecords?]

/-- **Leading rows never matter.** Complete records in front of a text, a byte-order mark before them or not, do not
change how the text is read as a sheet, as long as none of them is the header line and the text itself has no byte-order
mark: it is read exactly when it is read without them, with the same rows under the same keys and the same failures of
dates. -/
theorem read_behind_leading_rows (hp : CompleteText lead (unmarked p.toList)) (hheader : k.headerLine ∉ lead)
    (ht : t.toList.head? ≠ some '\uFEFF') (reading : Reading k) :
    read k (p ++ t) = .ok reading ↔ read k t = .ok reading := by
  rw [read, read, read_append hp ht, dataRecords?_append hheader]
  cases dataRecords? k (Delimited.read t) with
  | none => exact iff_of_false (fun h => nomatch h) fun h => nomatch h
  | some data => rfl

/-- A title over two lines, an empty line and the start of a header line before a sheet with an unreadable date. -/
theorem read_behind_leading_rows_title :
    let p := "\uFEFFTerm,\"Spring \"\"A\"\",\n2015\" draft\r\n\nCOURSE_ID,COURSE_NAME\r"
    let lead := [["Term", "Spring \"A\",\n2015 draft"], ["COURSE_ID", "COURSE_NAME"]]
    let t := "COURSE_ID,COURSE_NAME,CROSS_LISTED_FLAG,CROSS_LISTED_NAME,LDAP_UID,FIRST_NAME,LAST_NAME,EMAIL_ADDRESS," ++
      "EVALUATE,DEPT_FORM,EVALUATION_TYPE,START_DATE,END_DATE\n2015-B-1,A,,,'9,,,,Y,,,soon,5/8/2015\n2015-B-2"
    CompleteText lead (unmarked p.toList) ∧ Kind.courseConfirmation.headerLine ∉ lead ∧
      t.toList.head? ≠ some '\uFEFF' ∧ ∃ reading, read .courseConfirmation t = .ok reading ∧
        reading.sheet.rows.keys = ["0", "1"] ∧ reading.dateFailures = [("0", .unreadableDate .startDate "soon")] ∧
        read .courseConfirmation (p ++ t) = .ok reading := by
  intro p lead t
  have hlead : readFrom .start (unmarked p.toList) = lead := by decide +kernel
  have hp : CompleteText lead (unmarked p.toList) := hlead ▸ completeText_readFrom (by decide +kernel)
  have hheader : Kind.courseConfirmation.headerLine ∉ lead := by decide +kernel
  have ht : t.toList.head? ≠ some '\uFEFF' := by decide +kernel
  have hok : (read .courseConfirmation t).toOption.map (fun r => (r.sheet.rows.keys, r.dateFailures)) =
      some (["0", "1"], [("0", .unreadableDate .startDate "soon")]) := by decide +kernel
  cases hread : read .courseConfirmation t with
  | error failure =>
    rw [hread] at hok
    cases hok
  | ok reading =>
    rw [hread] at hok
    obtain ⟨hkeys, hfailures⟩ := Prod.mk.inj (Option.some.inj hok)
    exact ⟨hp, hheader, ht, reading, rfl, hkeys, hfailures, (read_behind_leading_rows hp hheader ht reading).2 hread⟩

end Registrar.Sheet
