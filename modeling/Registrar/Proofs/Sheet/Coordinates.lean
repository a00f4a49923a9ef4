import Mathlib.Data.List.Basic
import Mathlib.Data.List.Induction
import Registrar.Proofs.Text.Number
import Registrar.Sheet.Coordinates

/-!
# What cell names tell

The letters of a column are a numeral in base 26 that has no zero: every number has exactly one such numeral
(`columnNumber_columnLetters`, `columnLetters_columnNumber`), also at the powers of 26, where the last letter is a `Z`
and nothing is carried. As no digit is a letter, a cell name falls into its two parts in one way (`readCell_cellName`),
so that different cells have different names. The lines of a report (`report_eq`) have a colon behind the name of the
cell and none in it, so what stands before the first colon tells the row and the column at fault
(`locate?_cellOf_faultLine`, `cell_names_unambiguous`).
-/

namespace Registrar

open Text

variable {k : Kind} {letters : List Char} {c : Char}

/-! ## Letters as digits -/

theorem isAsciiUpper_iff : isAsciiUpper c = true ↔ 65 ≤ c.toNat ∧ c.toNat ≤ 90 := by
  simp only [isAsciiUpper, Bool.and_eq_true, decide_eq_true_eq]
  exact Iff.rfl

theorem isAsciiUpper_of_isAsciiDigit (h : isAsciiDigit c = true) : isAsciiUpper c = false := by
  rw [isAsciiDigit_iff] at h
  rw [Bool.eq_false_iff, Ne, isAsciiUpper_iff]
  omega

/-- The value of a letter `A` to `Z`, from 1 to 26. -/
def letterValue (c : Char) : Nat := c.toNat - 'A'.toNat + 1

/-- The letter with a value, counted from 0. -/
def letter (i : Nat) : Char := Char.ofNat ('A'.toNat + i)

theorem isAsciiUpper_letter {i : Nat} (h : i < 26) : isAsciiUpper (letter i) = true := by
  have hall : ∀ i, i < 26 → isAsciiUpper (letter i) = true := by decide
  exact hall i h

theorem letterValue_letter {i : Nat} (h : i < 26) : letterValue (letter i) = i + 1 := by
  have hall : ∀ i, i < 26 → letterValue (letter i) = i + 1 := by decide
  exact hall i h

theorem exists_letter (h : isAsciiUpper c = true) : ∃ i < 26, c = letter i := by
  obtain ⟨hlower, hupper⟩ := isAsciiUpper_iff.1 h
  have hcode : 'A'.toNat + (c.toNat - 65) = c.toNat := Nat.add_sub_cancel' hlower
  refine ⟨c.toNat - 65, by omega, ?_⟩
  rw [letter, hcode, Char.ofNat_toNat]

/-! ## Numerals without a zero -/

/-- The number that letters denote in base 26, each letter a digit from 1 to 26. -/
def columnNumber (letters : List Char) : Nat := letters.foldl (fun n c => 26 * n + letterValue c) 0

/-- The letters of a column. -/
def columnLetters (column : Nat) : List Char := (columnLettersReversed column).reverse

theorem columnNumber_append_singleton (letters : List Char) (c : Char) :
    columnNumber (letters ++ [c]) = 26 * columnNumber letters + letterValue c := by
  rw [columnNumber, List.foldl_append]
  rfl

theorem columnLetters_zero : columnLetters 0 = [] := by
  rw [columnLetters, columnLettersReversed, if_pos rfl, List.reverse_nil]

theorem columnLetters_succ (n : Nat) : columnLetters (n + 1) = columnLetters (n / 26) ++ [letter (n % 26)] := by
  rw [columnLetters, columnLettersReversed, if_neg (Nat.succ_ne_zero n), List.reverse_cons]
  rfl

/-- One turn of the division takes off the last letter. -/
theorem columnLetters_append_letter (n : Nat) {i : Nat} (h : i < 26) :
    columnLetters (26 * n + (i + 1)) = columnLetters n ++ [letter i] := by
  have hdiv : (26 * n + i) / 26 = n := by omega
  have hmod : (26 * n + i) % 26 = i := by omega
  rw [← Nat.add_assoc, columnLetters_succ, hdiv, hmod]

/-- The turns of the division lead from every column down to 0. -/
theorem column_induction {P : Nat → Prop} (zero : P 0) (turn : ∀ n, P (n / 26) → P (n + 1)) (n : Nat) : P n := by
  induction n using columnLettersReversed.induct with
  | case1 => exact zero
  | case2 n hn ih =>
    obtain ⟨m, rfl⟩ := Nat.exists_eq_succ_of_ne_zero hn
    exact turn m ih

theorem isAsciiUpper_of_mem_columnLetters {n : Nat} (h : c ∈ columnLetters n) : isAsciiUpper c = true := by
  induction n using column_induction with
  | zero =>
    rw [columnLetters_zero] at h
    cases h
  | turn n ih =>
    rw [columnLetters_succ, List.mem_append, List.mem_singleton] at h
    rcases h with h | rfl
    · exact ih h
    · exact isAsciiUpper_letter (Nat.mod_lt n (by decide))

theorem columnNumber_columnLetters (n : Nat) : columnNumber (columnLetters n) = n := by
  induction n using column_induction with
  | zero =>
    rw [columnLetters_zero]
    rfl
  | turn n ih =>
    rw [columnLetters_succ, columnNumber_append_singleton, ih, letterValue_letter (Nat.mod_lt n (by decide))]
    -- the last letter counts one more than the remainder: this is the one that was taken off before dividing
    omega

theorem columnLetters_columnNumber (h : ∀ c ∈ letters, isAsciiUpper c = true) :
    columnLetters (columnNumber letters) = letters := by
  induction letters using List.reverseRecOn with
  | nil => exact columnLetters_zero
  | append_singleton letters c ih =>
    obtain ⟨i, hi, rfl⟩ := exists_letter (h c (by simp))
    rw [columnNumber_append_singleton, letterValue_letter hi, columnLetters_append_letter _ hi,
      ih fun c hc => h c (List.mem_append_left _ hc)]

/-! ## Cells -/

/-- A text names a cell: one or more letters `A` to `Z` that denote the column, and behind them the row in decimal
digits. -/
def NamesCell (name : String) (row column : Nat) : Prop :=
  ∃ letters, letters ≠ [] ∧ (∀ c ∈ letters, isAsciiUpper c = true) ∧ columnNumber letters = column ∧
    name.toList = letters ++ (toString row).toList

/-- The row and the column that a cell name tells. -/
def readCell (cell : List Char) : Nat × Nat :=
  (readNat (cell.dropWhile isAsciiUpper), columnNumber (cell.takeWhile isAsciiUpper))

theorem toList_cellName (row column : Nat) :
    (cellName row column).toList = columnLetters column ++ (toString row).toList := by
  rw [cellName, String.toList_append, String.toList_ofList]
  rfl

theorem namesCell_iff {name : String} {row column : Nat} :
    NamesCell name row column ↔ 0 < column ∧ name = cellName row column := by
  constructor
  · rintro ⟨letters, hne, hupper, rfl, hname⟩
    have hletters := columnLetters_columnNumber hupper
    refine ⟨Nat.pos_of_ne_zero fun hzero => hne ?_, ?_⟩
    · rw [← hletters, hzero, columnLetters_zero]
    · rw [← String.toList_inj, hname, toList_cellName, hletters]
  · rintro ⟨hpos, rfl⟩
    refine ⟨columnLetters column, fun hnil => ?_, fun c => isAsciiUpper_of_mem_columnLetters,
      columnNumber_columnLetters column, toList_cellName row column⟩
    rw [← columnNumber_columnLetters column, hnil] at hpos
    cases hpos

example : cellName 12 702 = "ZZ12" ∧ cellName 12 703 = "AAA12" := by decide +kernel

/-- The letters in front are read as the column, and what starts with no letter as the row. -/
theorem readCell_append {cs : List Char} (hletters : ∀ c ∈ letters, isAsciiUpper c = true)
    (hcs : ∀ c ∈ cs.head?, isAsciiUpper c = false) : readCell (letters ++ cs) = (readNat cs, columnNumber letters) := by
  have hrest : cs.takeWhile isAsciiUpper = [] ∧ cs.dropWhile isAsciiUpper = cs := by
    cases cs with
    | nil => exact ⟨rfl, rfl⟩
    | cons c cs =>
      have hc := hcs c rfl
      exact ⟨List.takeWhile_cons_of_neg (by simp [hc]), List.dropWhile_cons_of_neg (by simp [hc])⟩
  rw [readCell, List.takeWhile_append_of_pos hletters, List.dropWhile_append_of_pos hletters, hrest.1, hrest.2,
    List.append_nil]

theorem readCell_cellName (row column : Nat) : readCell (cellName row column).toList = (row, column) := by
  have hdigits : ∀ c ∈ (toString row).toList.head?, isAsciiUpper c = false := fun c hc =>
    isAsciiUpper_of_isAsciiDigit (isAsciiDigit_of_mem_toString (List.mem_of_head? hc))
  rw [toList_cellName, readCell_append (fun c => isAsciiUpper_of_mem_columnLetters) hdigits, readNat_toString,
    columnNumber_columnLetters]

theorem cellName_inj {row column row' column' : Nat} :
    cellName row column = cellName row' column' ↔ row = row' ∧ column = column' := by
  constructor
  · intro h
    have hread := congrArg (fun name => readCell name.toList) h
    simp only [readCell_cellName] at hread
    exact Prod.mk.inj hread
  · rintro ⟨rfl, rfl⟩
    rfl

theorem colon_not_mem_cellName (row column : Nat) : ':' ∉ (cellName row column).toList := by
  rw [toList_cellName, List.mem_append]
  rintro (h | h)
  · cases isAsciiUpper_of_mem_columnLetters h
  · cases isAsciiDigit_of_mem_toString h

/-! ## Lines of a report -/

/-- The line about an unreadable date in the row under a key. -/
def dateLine (e : String × Failure) : String := "row " ++ e.1 ++ ": " ++ e.2.message

/-- The line about a fault of the row at a position, counted from 0; the header is line 1. -/
def faultLine (k : Kind) (e : Nat × Fault) : String :=
  cellName (e.1 + 2) (k.columns.idxOf e.2.column + 1) ++ ": " ++ e.2.message

/-- The faults of a sheet with the positions of their rows. -/
def Sheet.numberedFaults (s : Sheet k) : List (Nat × Fault) :=
  s.toList.zipIdx.flatMap fun p => p.1.faults.map fun fault => (p.2, fault)

/-- What stands in front of the first colon of a line. -/
def cellOf (line : String) : List Char := line.toList.takeWhile (· ≠ ':')

/-- The position and the column that a cell tells in a sheet with its header in line 1. -/
def locate? (k : Kind) (cell : List Char) : Option (Nat × Column) :=
  match readCell cell with
  | (row + 2, column + 1) => k.columns[column]?.map fun c => (row, c)
  | _ => none

theorem report_eq (k : Kind) (text : String) :
    Sheet.report k text = (Sheet.read k text).map fun reading =>
      reading.dateFailures.map dateLine ++ reading.sheet.numberedFaults.map (faultLine k) := by
  rw [Sheet.report]
  cases Sheet.read k text with
  | error failure => rfl
  | ok reading =>
    have hfaults : reading.sheet.numberedFaults.map (faultLine k) =
        reading.sheet.toList.zipIdx.flatMap fun p => p.1.faults.map fun fault => faultLine k (p.2, fault) := by
      rw [Sheet.numberedFaults, List.map_flatMap]
      simp only [List.map_map]
      rfl
    show _ = Except.ok (reading.dateFailures.map dateLine ++ reading.sheet.numberedFaults.map (faultLine k))
    rw [hfaults]
    rfl

theorem mem_numberedFaults_iff {s : Sheet k} {i : Nat} {fault : Fault} :
    (i, fault) ∈ s.numberedFaults ↔ ∃ r, s.toList[i]? = some r ∧ fault ∈ r.faults := by
  rw [Sheet.numberedFaults, List.mem_flatMap]
  constructor
  · rintro ⟨⟨r, j⟩, hp, hfault⟩
    obtain ⟨fault', hfault', heq⟩ := List.mem_map.1 hfault
    obtain ⟨rfl, rfl⟩ := Prod.mk.inj heq
    exact ⟨r, List.mem_zipIdx_iff_getElem?.1 hp, hfault'⟩
  · rintro ⟨r, hr, hfault⟩
    exact ⟨(r, i), List.mem_zipIdx_iff_getElem?.2 hr, List.mem_map_of_mem hfault⟩

/-- What is checked are columns of the kind. -/
theorem column_mem_of_mem_checks {check : Check} (h : check ∈ k.checks) : check.column ∈ k.columns := by
  have hall : ∀ check ∈ k.checks, check.column ∈ k.columns := by cases k <;> decide
  exact hall check h

theorem column_of_mem_faults {check : Check} {r : Row k} {fault : Fault} (h : fault ∈ check.faults r) :
    fault.column = check.column := by
  unfold Check.faults at h
  rcases List.mem_append.1 h with h | h
  · split at h
    · rw [List.mem_singleton.1 h]
      rfl
    · cases h
  · split at h
    · rw [List.mem_singleton.1 h]
      rfl
    · cases h

theorem column_mem_of_mem_faults {r : Row k} {fault : Fault} (h : fault ∈ r.faults) : fault.column ∈ k.columns := by
  obtain ⟨check, hcheck, hfault⟩ := List.mem_flatMap.1 h
  rw [column_of_mem_faults hfault]
  exact column_mem_of_mem_checks hcheck

theorem cellOf_faultLine (k : Kind) (e : Nat × Fault) :
    cellOf (faultLine k e) = (cellName (e.1 + 2) (k.columns.idxOf e.2.column + 1)).toList := by
  have hcell : ∀ c ∈ (cellName (e.1 + 2) (k.columns.idxOf e.2.column + 1)).toList, decide (c ≠ ':') = true :=
    fun c hc => decide_eq_true fun h => colon_not_mem_cellName _ _ (h ▸ hc)
  rw [cellOf, faultLine, String.append_assoc, String.toList_append, List.takeWhile_append_of_pos hcell,
    String.toList_append]
  exact List.append_nil _

theorem locate?_cellOf_faultLine {i : Nat} {fault : Fault} (h : fault.column ∈ k.columns) :
    locate? k (cellOf (faultLine k (i, fault))) = some (i, fault.column) := by
  rw [cellOf_faultLine, locate?, readCell_cellName]
  show (k.columns[k.columns.idxOf fault.column]?).map (fun c => (i, c)) = _
  rw [List.getElem?_idxOf h]
  rfl

theorem locate?_cons_of_not_isAsciiUpper (h : isAsciiUpper c = false) (cs : List Char) :
    locate? k (c :: cs) = none := by
  have hread : readCell (c :: cs) = (readNat (c :: cs), 0) :=
    @readCell_append [] (c :: cs) nofun fun d hd => Option.some.inj hd ▸ h
  rw [locate?, hread]
  split
  · rename_i hcell
    have hzero := congrArg Prod.snd hcell
    cases hzero
  · rfl

/-- A line about a date starts with no cell. -/
theorem locate?_cellOf_dateLine (k : Kind) (e : String × Failure) : locate? k (cellOf (dateLine e)) = none := by
  have hline : ∃ cs, cellOf (dateLine e) = 'r' :: cs := by
    rw [cellOf, dateLine, String.append_assoc, String.append_assoc, String.toList_append]
    exact ⟨_, List.takeWhile_cons_of_pos (by decide)⟩
  obtain ⟨cs, hcs⟩ := hline
  rw [hcs, locate?_cons_of_not_isAsciiUpper (by decide)]

/-- **Cell names are unambiguous.** The name of a cell is one or more letters that denote its column as a numeral in
base 26 without a zero, and the row in decimal digits behind them; no other text is. Different cells have different
names. A report lists the dates that cannot be read and then a line for every fault of every row: what stands before the
first colon of such a line tells the row, by its position in the sheet, and the column at fault, and lines about dates
start with no cell. -/
theorem cell_names_unambiguous (k : Kind) (text : String) :
    (∀ name row column, NamesCell name row column ↔ 0 < column ∧ name = cellName row column) ∧
    (∀ row column row' column', cellName row column = cellName row' column' ↔ row = row' ∧ column = column') ∧
    Sheet.report k text = (Sheet.read k text).map (fun reading =>
      reading.dateFailures.map dateLine ++ reading.sheet.numberedFaults.map (faultLine k)) ∧
    (∀ (s : Sheet k) i fault, (i, fault) ∈ s.numberedFaults →
      (∃ r, s.toList[i]? = some r ∧ fault ∈ r.faults) ∧
      locate? k (cellOf (faultLine k (i, fault))) = some (i, fault.column)) ∧
    ∀ e, locate? k (cellOf (dateLine e)) = none := by
  refine ⟨fun _ _ _ => namesCell_iff, fun _ _ _ _ => cellName_inj, report_eq k text, fun s i fault h => ?_,
    locate?_cellOf_dateLine k⟩
  obtain ⟨r, hr, hfault⟩ := mem_numberedFaults_iff.1 h
  exact ⟨⟨r, hr, hfault⟩, locate?_cellOf_faultLine (column_mem_of_mem_faults hfault)⟩

/-- Two faults in the second row of a sheet, in the cells `B3` and `C3`. -/
theorem cell_names_unambiguous_supervisors :
    let text := "COURSE_ID,LDAP_UID,DEPT_NAME\n2015-B-34821,9,A\n2015-B-34822,x,\n"
    ∃ reading, Sheet.read .courseSupervisors text = .ok reading ∧
      (1, Fault.blank .deptName) ∈ reading.sheet.numberedFaults ∧
      Sheet.report .courseSupervisors text = .ok ["B3: Non-numeric LDAP_UID x", "C3: Blank DEPT_NAME"] ∧
      locate? .courseSupervisors "C3".toList = some (1, .deptName) := by
  intro text
  obtain ⟨-, -, hreport, hlocate, -⟩ := cell_names_unambiguous .courseSupervisors text
  have hok : (Sheet.read .courseSupervisors text).toOption.map (fun r => (r.dateFailures, r.sheet.numberedFaults)) =
      some ([], [(1, .refused .nonNumeric .ldapUid "x"), (1, .blank .deptName)]) := by decide +kernel
  have hlines : [(1, Fault.refused .nonNumeric .ldapUid "x"), (1, .blank .deptName)].map
      (faultLine .courseSupervisors) = ["B3: Non-numeric LDAP_UID x", "C3: Blank DEPT_NAME"] := by decide +kernel
  cases hread : Sheet.read .courseSupervisors text with
  | error failure =>
    rw [hread] at hok
    cases hok
  | ok reading =>
    rw [hread] at hok hreport
    obtain ⟨hdates, hfaults⟩ := Prod.mk.inj (Option.some.inj hok)
    have hmem : (1, Fault.blank .deptName) ∈ reading.sheet.numberedFaults := by
      rw [hfaults]
      exact List.mem_cons_of_mem _ (List.mem_singleton_self _)
    refine ⟨reading, rfl, hmem, ?_, ?_⟩
    · rw [hreport]
      show Except.ok (reading.dateFailures.map dateLine ++ reading.sheet.numberedFaults.map (faultLine _)) = _
      rw [hdates, hfaults, hlines]
      rfl
    · have hcell : cellOf (faultLine .courseSupervisors (1, .blank .deptName)) = "C3".toList := by decide +kernel
      rw [← hcell]
      exact (hlocate reading.sheet 1 _ hmem).2

end Registrar
