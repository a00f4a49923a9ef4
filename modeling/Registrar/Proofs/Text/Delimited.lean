import Registrar.Proofs.Text.Grammar

/-!
# Reading what was written

A written record is one line of the grammar of delimited text (`fieldsText_writeFields`), so written records are
complete records (`completeText_write`), and reading a written list of records gives the list back (`read_write`): no
record may be empty, and the text must not start with a byte-order mark.
-/

namespace Registrar.Delimited

variable {record : Record} {records : List Record}

/-! ## Fields and records -/

theorem isPlain_of_needsQuotes {c : Char} (hc : needsQuotes c = false) : IsPlain c ∧ c ≠ '"' := by
  simp only [needsQuotes, Bool.or_eq_false_iff, decide_eq_false_iff_not] at hc
  exact ⟨⟨hc.1.1, hc.2⟩, hc.1.2⟩

theorem fieldText_writeField (field : String) : FieldText field.toList (writeField field) := by
  unfold writeField
  dsimp only
  split
  · have hquoted : FieldText (field.toList ++ []) _ := .quoted field.toList nofun nofun
    rwa [List.append_nil] at hquoted
  · rename_i hplain
    rw [Bool.not_eq_true, List.any_eq_false] at hplain
    have hchars : ∀ c ∈ field.toList, IsPlain c ∧ c ≠ '"' := fun c hc =>
      isPlain_of_needsQuotes (Bool.not_eq_true _ ▸ hplain c hc)
    exact .bare (fun c hc => (hchars c hc).1) fun hhead => (hchars _ (List.mem_of_head? hhead)).2 rfl

theorem fieldsText_writeFields (hne : record ≠ []) : FieldsText record (writeFields record) := by
  induction record with
  | nil => exact absurd rfl hne
  | cons field rest ih =>
    cases rest with
    | nil => exact .single (fieldText_writeField field)
    | cons next rest => exact .cons (fieldText_writeField field) (ih (List.cons_ne_nil _ _))

/-- Nothing is written only for a record whose one field is empty. -/
theorem eq_of_writeFields_eq_nil (hne : record ≠ []) (h : writeFields record = []) : record = [""] := by
  cases record with
  | nil => exact absurd rfl hne
  | cons field rest =>
    cases rest with
    | nil =>
      rw [writeFields, writeField] at h
      split at h
      · cases h
      · rw [String.toList_eq_nil_iff.1 h]
    | cons next rest =>
      have hcomma : writeField field ++ ',' :: writeFields (next :: rest) = [] := h
      exact absurd hcomma (by simp)

/-- A written record is a complete record. -/
theorem completeText_writeRecord (hne : record ≠ []) {cs : List Char} (h : CompleteText records cs) :
    CompleteText (record :: records) (writeRecord record ++ cs) := by
  unfold writeRecord
  split
  · rename_i hnil
    rw [eq_of_writeFields_eq_nil hne hnil]
    have hline : FieldsText [""] ['"', '"'] := .single (.quoted [] nofun nofun)
    exact .record hline (List.cons_ne_nil _ _) rfl h
  · rename_i hline
    rw [List.append_assoc]
    exact .record (fieldsText_writeFields hne) hline rfl h

/-! ## Lists of records -/

theorem completeText_write (hne : ∀ record ∈ records, record ≠ []) :
    CompleteText records (records.map writeRecord).flatten := by
  induction records with
  | nil => exact .nil
  | cons record rest ih =>
    rw [List.map_cons, List.flatten_cons]
    exact completeText_writeRecord (hne record List.mem_cons_self) (ih fun r hr => hne r (List.mem_cons_of_mem _ hr))

/-- Reading a written list of records gives the list back. -/
theorem read_write (hne : ∀ record ∈ records, record ≠ []) (hmark : (write records).toList.head? ≠ some '\uFEFF') :
    read (write records) = records := by
  rw [read_eq, unmarked_of_head?_ne hmark, write, String.toList_ofList]
  exact readFrom_eq_of_completeText (completeText_write hne)

end Registrar.Delimited
