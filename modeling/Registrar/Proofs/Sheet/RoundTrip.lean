import Registrar.Proofs.Sheet.Canonical
import Registrar.Proofs.Sheet.Order
import Registrar.Proofs.Sheet.Row
import Registrar.Proofs.Text.Delimited

/-!
# Sheets survive their text

A record is read as the row that holds its fields in canonical form (`get_ofRecord`), so the record of a written row is
read as the canonical row, with apostrophes or without (`ofRecord_exportedCells`), and a row that was read is canonical
(`canonical_ofRecord`). A written sheet is therefore read as its rows in export order, numbered and canonical, and from
the first reading on neither the rows nor the text change (`read_written`).
-/

namespace Registrar

variable {k : Kind} {c : Column}

/-! ## Fields under columns -/

theorem lookup_zip_of_not_mem {ks : List Column} (h : c ∉ ks) (vs : List String) : (ks.zip vs).lookup c = none := by
  induction ks generalizing vs with
  | nil => rfl
  | cons a ks ih =>
    rw [List.mem_cons, not_or] at h
    cases vs with
    | nil => rfl
    | cons v vs =>
      have hne : (c == a) = false := beq_eq_false_iff_ne.2 h.1
      rw [List.zip_cons_cons, List.lookup_cons, hne]
      exact ih h.2 vs

theorem lookup_zip_map (f : String → String) (ks : List Column) (vs : List String) :
    (ks.zip (vs.map f)).lookup c = ((ks.zip vs).lookup c).map f := by
  induction ks generalizing vs with
  | nil => rfl
  | cons a ks ih =>
    cases vs with
    | nil => rfl
    | cons v vs =>
      rw [List.map_cons, List.zip_cons_cons, List.zip_cons_cons, List.lookup_cons, List.lookup_cons]
      split
      · rfl
      · exact ih vs

theorem lookup_zip_self {ks : List Column} (h : c ∈ ks) (f : Column → String) :
    (ks.zip (ks.map f)).lookup c = some (f c) := by
  induction ks with
  | nil => cases h
  | cons a ks ih =>
    rw [List.map_cons, List.zip_cons_cons, List.lookup_cons]
    by_cases hca : c = a
    · subst hca
      rw [beq_self_eq_true]
    · rw [beq_eq_false_iff_ne.2 hca]
      exact ih ((List.mem_cons.1 h).resolve_left hca)

/-- The field of a record under an exported column; a record that is too short has it empty. -/
def fieldUnder (k : Kind) (record : Delimited.Record) (c : Column) : String :=
  ((k.exported.zip record).lookup c).getD ""

theorem fieldUnder_of_not_mem (h : c ∉ k.exported) (record : Delimited.Record) : fieldUnder k record c = "" := by
  rw [fieldUnder, lookup_zip_of_not_mem h]
  rfl

theorem fieldUnder_exportedCells (h : c ∈ k.exported) (r : Row k) (f : String → String) :
    fieldUnder k (r.exportedCells.map f) c = f (r.get c) := by
  rw [fieldUnder, lookup_zip_map, Row.exportedCells, lookup_zip_self h]
  rfl

/-! ## Reading a record -/

namespace Row

theorem get_setAll {ks : List Column} (hks : ks.Nodup) (hc : c ∈ k.columns) (vs : List String) (r : Row k) :
    ((ks.zip vs).foldl (fun r (c, v) => r.set c v) r).get c = ((ks.zip vs).lookup c).getD (r.get c) := by
  induction ks generalizing vs r with
  | nil => rfl
  | cons a ks ih =>
    rw [List.nodup_cons] at hks
    cases vs with
    | nil => rfl
    | cons v vs =>
      rw [List.zip_cons_cons, List.foldl_cons, ih hks.2, List.lookup_cons]
      by_cases hca : c = a
      · subst hca
        rw [beq_self_eq_true, lookup_zip_of_not_mem hks.1]
        exact get_set_self r v hc
      · rw [beq_eq_false_iff_ne.2 hca, get_set_of_ne r v hca]

theorem get_ofFields (record : Delimited.Record) (c : Column) :
    (ofFields k record).get c = unprotectNumeral (fieldUnder k record c) := by
  have hempty : unprotectNumeral "" = "" := by decide
  by_cases hc : c ∈ k.columns
  · have hnodup : k.exported.Nodup := (List.nodup_append.1 k.nodup_columns).1
    rw [ofFields, ofPairs, get_setAll hnodup hc, get_blank, lookup_zip_map, fieldUnder]
    cases (k.exported.zip record).lookup c with
    | none => exact hempty.symm
    | some v => rfl
  · have hexported : c ∉ k.exported := fun h => hc (mem_columns_of_mem_exported h)
    rw [get_of_not_mem hc, fieldUnder_of_not_mem hexported, hempty]

theorem get_normalizeDate (r : Row k) (d c : Column) :
    (r.normalizeDate d).1.get c = if c = d then (Date.normalize? (r.get d)).getD (r.get d) else r.get c := by
  unfold normalizeDate
  split
  · rename_i hd
    cases hn : Date.normalize? (r.get d) with
    | none =>
      show r.get c = _
      split
      · rename_i hcd
        rw [hcd]
        rfl
      · rfl
    | some t =>
      show (r.set d t).get c = _
      rw [get_set]
      simp only [hd.1, and_true]
      rfl
  · rename_i hd
    -- the text is empty or blank, and names no date either way
    have hnone : Date.normalize? (r.get d) = none := by
      rw [not_and_or, Classical.not_not] at hd
      have hblank : Text.isBlankText (r.get d) = true := by
        rcases hd with hd | hd
        · rw [get_of_not_mem hd]
          rfl
        · exact hd
      rw [Date.normalize?, Date.parse?_of_isBlankText hblank]
      rfl
    rw [hnone]
    split
    · rename_i hcd
      rw [hcd]
      rfl
    · rfl

/-- The row of a record holds the canonical forms of its fields. -/
theorem get_ofRecord (record : Delimited.Record) (c : Column) :
    (ofRecord k record).1.get c = canon c (fieldUnder k record c) := by
  have hrow : (ofRecord k record).1 = (((ofFields k record).normalizeDate .startDate).1.normalizeDate .endDate).1 := rfl
  rw [hrow, get_normalizeDate, get_normalizeDate, get_normalizeDate, get_ofFields, get_ofFields, get_ofFields]
  by_cases hend : c = .endDate
  · subst hend
    rw [canon_of_mem (by decide), if_pos rfl, if_neg (by decide)]
  · rw [if_neg hend]
    by_cases hstart : c = .startDate
    · subst hstart
      rw [canon_of_mem (by decide), if_pos rfl]
    · have hc : c ∉ Column.dates := by
        intro h
        rcases List.mem_cons.1 h with h | h
        · exact hstart h
        · exact hend (List.mem_singleton.1 h)
      rw [if_neg hstart, canon_of_not_mem hc]

theorem canonical_ofRecord (record : Delimited.Record) : (ofRecord k record).1.canonical = (ofRecord k record).1 := by
  apply ext_columns
  intro c _
  rw [get_canonical, get_ofRecord]
  split
  · exact canon_canon _ _
  · rename_i hc
    rw [fieldUnder_of_not_mem hc, canon_empty]

theorem ofRecord_exportedCells {f : String → String} (hf : ∀ c v, canon c (f v) = canon c v) (r : Row k) :
    (ofRecord k (r.exportedCells.map f)).1 = r.canonical := by
  apply ext_columns
  intro c _
  rw [get_canonical, get_ofRecord]
  split
  · rename_i hc
    rw [fieldUnder_exportedCells hc, hf]
  · rename_i hc
    rw [fieldUnder_of_not_mem hc, canon_empty]

end Row

/-! ## Reading a sheet -/

namespace Sheet

theorem read_writeRecords {data : List Delimited.Record} (hne : ∀ record ∈ data, record ≠ []) :
    Delimited.read (Delimited.write (k.headerLine :: data)) = k.headerLine :: data := by
  have hheader : k.headerLine ≠ [] ∧
      (Delimited.writeRecord k.headerLine).head?.any (fun c => c ≠ '\uFEFF') = true := by
    cases k <;> decide
  apply Delimited.read_write
  · intro record hmem
    rcases List.mem_cons.1 hmem with rfl | hmem
    · exact hheader.1
    · exact hne record hmem
  · obtain ⟨c, hc, hmark⟩ := (Option.any_eq_true _ _).1 hheader.2
    rw [Delimited.write, String.toList_ofList, List.map_cons, List.flatten_cons, List.head?_append, hc]
    intro h
    cases h
    exact absurd rfl (of_decide_eq_true hmark)

theorem dataRecords?_header (data : List Delimited.Record) : dataRecords? k (k.headerLine :: data) = some data := by
  rw [dataRecords?, List.dropWhile_cons, if_neg]
  simp

/-- A text that starts with the header line is read as one row for each record after it. -/
theorem read_records {data : List Delimited.Record} (hne : ∀ record ∈ data, record ≠ []) :
    ∃ reading, read k (Delimited.write (k.headerLine :: data)) = .ok reading ∧
      reading.sheet = ofRows k (data.map fun record => (Row.ofRecord k record).1) := by
  rw [read, read_writeRecords hne, dataRecords?_header]
  exact ⟨_, rfl, congrArg (ofRows k) (List.map_map ..)⟩

theorem read_writeWith {f : String → String} (hf : ∀ c v, canon c (f v) = canon c v) (s : Sheet k) :
    ∃ reading, read k (s.writeWith f) = .ok reading ∧ reading.sheet = ofRows k (s.sortedRows.map Row.canonical) := by
  have hne : ∀ record ∈ s.sortedRows.map fun r => r.exportedCells.map f, record ≠ [] := by
    intro record hmem
    obtain ⟨r, -, rfl⟩ := List.mem_map.1 hmem
    cases k <;> exact List.cons_ne_nil _ _
  obtain ⟨reading, hread, hsheet⟩ := read_records hne
  refine ⟨reading, hread, ?_⟩
  rw [hsheet, List.map_map]
  congr 1
  apply List.map_congr_left
  intro r _
  exact Row.ofRecord_exportedCells hf r

/-- The two ways of writing a sheet. -/
def writers (k : Kind) : List (Sheet k → String) := [write, writePlain]

theorem read_writer {w : Sheet k → String} (hw : w ∈ writers k) (s : Sheet k) :
    ∃ reading, read k (w s) = .ok reading ∧ reading.sheet = ofRows k (s.sortedRows.map Row.canonical) := by
  rcases List.mem_cons.1 hw with rfl | hw
  · unfold write
    split
    · exact read_writeWith canon_protectNumeral s
    · exact read_writeWith (fun _ _ => rfl) s
  · rw [List.mem_singleton.1 hw]
    exact read_writeWith (fun _ _ => rfl) s

theorem writer_eq {w : Sheet k → String} (hw : w ∈ writers k) {s t : Sheet k} (h : s.sortedRows = t.sortedRows) :
    w s = w t := by
  rcases List.mem_cons.1 hw with rfl | hw
  · rw [write, write, writeWith, writeWith, h]
  · rw [List.mem_singleton.1 hw, writePlain, writePlain, writeWith, writeWith, h]

/-- The rows of a sheet that was read are canonical. -/
theorem canonical_of_read {text : String} {reading : Reading k} (h : read k text = .ok reading) :
    ∀ r ∈ reading.sheet.toList, r.canonical = r := by
  unfold read at h
  split at h
  · cases h
  · cases h
    intro r hr
    rw [toList_ofRows, List.map_map] at hr
    obtain ⟨record, -, rfl⟩ := List.mem_map.1 hr
    exact Row.canonical_ofRecord record

/-- **A sheet survives its text.** Either written form of a sheet is read as its rows in export order, numbered and in
canonical form. Whatever text was read, writing the sheet and reading it again gives the same rows in export order, and
writing that sheet gives the same texts. -/
theorem read_written (k : Kind) :
    (∀ (s : Sheet k), ∀ w ∈ writers k, ∃ reading, read k (w s) = .ok reading ∧
      reading.sheet.entries = numbered (s.sortedRows.map Row.canonical)) ∧
    (∀ text reading, read k text = .ok reading → ∀ w ∈ writers k, ∃ again, read k (w reading.sheet) = .ok again ∧
      again.sheet.entries = numbered reading.sheet.sortedRows ∧
      ∀ w' ∈ writers k, w' again.sheet = w' reading.sheet) := by
  constructor
  · intro s w hw
    obtain ⟨reading, hread, hsheet⟩ := read_writer hw s
    refine ⟨reading, hread, ?_⟩
    rw [hsheet, entries_ofRows]
  · intro text reading htext w hw
    obtain ⟨again, hread, hsheet⟩ := read_writer hw reading.sheet
    have hsame : reading.sheet.sortedRows.map Row.canonical = reading.sheet.sortedRows := by
      refine (List.map_congr_left (g := id) ?_).trans (List.map_id _)
      intro r hr
      exact canonical_of_read htext r (mem_sortedRows.1 hr)
    rw [hsame] at hsheet
    refine ⟨again, hread, ?_, ?_⟩
    · rw [hsheet, entries_ofRows]
    · intro w' hw'
      apply writer_eq hw'
      apply sortedRows_of_toList
      rw [hsheet, toList_ofRows]

/-- A text with short records, apostrophes, quotes and rows out of order: once it was read, neither its rows nor its
written form change. -/
theorem read_written_unsorted :
    let text := Delimited.write [Kind.sisImport.headerLine, ["'B", "'9", "x,\"y\""], ["'1"]]
    ∃ reading, read .sisImport text = .ok reading ∧ ∃ again, read .sisImport reading.sheet.write = .ok again ∧
      again.sheet.entries = numbered reading.sheet.sortedRows ∧ again.sheet.write = reading.sheet.write := by
  intro text
  have hne : ∀ record ∈ [["'B", "'9", "x,\"y\""], ["'1"]], record ≠ [] := by simp
  obtain ⟨reading, hread, -⟩ := read_records (k := .sisImport) hne
  obtain ⟨again, hagain, hrows, hwrite⟩ := (read_written .sisImport).2 text reading hread write List.mem_cons_self
  exact ⟨reading, hread, again, hagain, hrows, hwrite write List.mem_cons_self⟩

end Sheet

end Registrar
