import Registrar.Text.Delimited

/-!
# The grammar of delimited text

A field is written bare, or in quotes with every quote doubled; what follows the closing quote belongs to the field as
it stands (`FieldText`). A text of complete records has a line end behind each, and may have empty lines between them
(`CompleteText`). The reader reads such a text as the records of the grammar, whatever follows it
(`readFrom_completeText`, `read_append`), and every text behind which the reader stands between two records is one
(`completeText_readFrom`).
-/

namespace Registrar.Delimited

variable {s : State} {c : Char} {cs ds tail : List Char} {value : List Char} {fields : List String} {field : String}
  {record : Record} {records : List Record}

/-- A character that neither ends a field nor a record. -/
def IsPlain (c : Char) : Prop := c ≠ ',' ∧ isLineEnd c = false

/-- The characters of a field: bare ones, of which the first is no quote, or characters in quotes, every quote among
them doubled, with bare ones behind the closing quote. -/
inductive FieldText : List Char → List Char → Prop where
  | bare {cs : List Char} : (∀ c ∈ cs, IsPlain c) → cs.head? ≠ some '"' → FieldText cs cs
  | quoted (body : List Char) {rest : List Char} : (∀ c ∈ rest, IsPlain c) → rest.head? ≠ some '"' →
      FieldText (body ++ rest) ('"' :: (doubleQuotes body ++ '"' :: rest))

/-- The characters of a record: those of its fields, with a comma between each and the next. -/
inductive FieldsText : Record → List Char → Prop where
  | single {field : String} {cs : List Char} : FieldText field.toList cs → FieldsText [field] cs
  | cons {field : String} {record : Record} {cs ds : List Char} : FieldText field.toList cs → FieldsText record ds →
      FieldsText (field :: record) (cs ++ ',' :: ds)

/-- The characters of complete records: each is ended by a line end, and empty lines are no records. -/
inductive CompleteText : List Record → List Char → Prop where
  | nil : CompleteText [] []
  | emptyLine {records : List Record} {c : Char} {cs : List Char} : isLineEnd c = true → CompleteText records cs →
      CompleteText records (c :: cs)
  | record {record : Record} {records : List Record} {line : List Char} {c : Char} {cs : List Char} :
      FieldsText record line → line ≠ [] → isLineEnd c = true → CompleteText records cs →
      CompleteText (record :: records) (line ++ c :: cs)

/-! ## Reading fields -/

/-- Outside quotes a plain character goes into the field, unless it is a quote that opens or closes quotes. -/
theorem step_plain (hplace : s.place ≠ .inQuotes) (hquote : c = '"' → s.place = .bare) (hc : IsPlain c) :
    step s c = (s.take .bare c, none) := by
  obtain ⟨place, field, fields⟩ := s
  obtain ⟨hcomma, hend⟩ := hc
  cases place with
  | inQuotes => exact absurd rfl hplace
  | bare => simp [step, stepOutside, hcomma, hend]
  | between | fieldStart | quoteSeen =>
    have hne : c ≠ '"' := fun heq => nomatch hquote heq
    simp [step, stepOutside, hcomma, hend, hne]

theorem readFrom_plain (hplace : s.place ≠ .inQuotes) (hquote : cs.head? = some '"' → s.place = .bare)
    (hcs : ∀ c ∈ cs, IsPlain c) (t : List Char) :
    readFrom s (cs ++ t) = readFrom ⟨if cs = [] then s.place else .bare, cs.reverse ++ s.field, s.fields⟩ t := by
  induction cs generalizing s with
  | nil => rfl
  | cons c rest ih =>
    rw [List.cons_append, readFrom,
      step_plain hplace (fun heq => hquote (congrArg some heq)) (hcs c List.mem_cons_self)]
    show readFrom (s.take .bare c) (rest ++ t) = _
    have hbare : (s.take .bare c).place ≠ .inQuotes := show Place.bare ≠ .inQuotes by decide
    rw [ih hbare (fun _ => rfl) fun c' hc' => hcs c' (List.mem_cons_of_mem _ hc')]
    simp [State.take]

/-- Inside quotes every character goes into the field, a doubled quote as one. -/
theorem readFrom_doubleQuotes (hp : s.place = .inQuotes) (cs t : List Char) :
    readFrom s (doubleQuotes cs ++ t) = readFrom ⟨.inQuotes, cs.reverse ++ s.field, s.fields⟩ t := by
  induction cs generalizing s with
  | nil =>
    obtain ⟨place, field, fields⟩ := s
    cases hp
    rfl
  | cons c rest ih =>
    obtain ⟨place, field, fields⟩ := s
    cases hp
    rw [doubleQuotes]
    split
    · rename_i hc
      subst hc
      show readFrom ⟨.inQuotes, '"' :: field, fields⟩ (doubleQuotes rest ++ t) = _
      rw [ih rfl]
      simp
    · rename_i hc
      have hstep : step ⟨.inQuotes, field, fields⟩ c = (⟨.inQuotes, c :: field, fields⟩, none) := if_neg hc
      rw [List.cons_append, readFrom, hstep]
      show readFrom ⟨.inQuotes, c :: field, fields⟩ (doubleQuotes rest ++ t) = _
      rw [ih rfl]
      simp

/-- The characters of a field leave the reader behind them, outside quotes; only an empty field leaves no trace. -/
theorem readFrom_fieldText {place : Place} (hp : place = .between ∨ place = .fieldStart) (h : FieldText value cs)
    (fields : List String) :
    ∃ place', place' ≠ .inQuotes ∧ (place' = .between → place = .between ∧ cs = []) ∧
      ∀ t, readFrom ⟨place, [], fields⟩ (cs ++ t) = readFrom ⟨place', value.reverse, fields⟩ t := by
  cases h with
  | bare hplain hhead =>
    have hout : place ≠ .inQuotes := by rcases hp with rfl | rfl <;> decide
    refine ⟨if cs = [] then place else .bare, ?_, ?_, fun t => ?_⟩
    · split
      · exact hout
      · decide
    · split
      · exact fun h => ⟨h, by assumption⟩
      · exact nofun
    · rw [readFrom_plain hout (fun h => absurd h hhead) hplain, List.append_nil]
  | quoted body hplain hhead =>
    rename_i rest
    have hopen : step ⟨place, [], fields⟩ '"' = (⟨.inQuotes, [], fields⟩, none) := by rcases hp with rfl | rfl <;> rfl
    refine ⟨if rest = [] then .quoteSeen else .bare, ?_, ?_, fun t => ?_⟩
    · split <;> decide
    · split <;> exact nofun
    · rw [List.cons_append, readFrom, hopen]
      show readFrom ⟨.inQuotes, [], fields⟩ (doubleQuotes body ++ '"' :: rest ++ t) = _
      rw [List.append_assoc, readFrom_doubleQuotes rfl, List.append_nil]
      show readFrom ⟨.quoteSeen, body.reverse, fields⟩ (rest ++ t) = _
      have hout : Place.quoteSeen ≠ .inQuotes := by decide
      rw [readFrom_plain hout (fun h => absurd h hhead) hplain, List.reverse_append]

/-! ## Reading records -/

theorem readFrom_comma {place : Place} (hp : place ≠ .inQuotes) (field : String) (t : List Char) :
    readFrom ⟨place, field.toList.reverse, fields⟩ (',' :: t) = readFrom ⟨.fieldStart, [], field :: fields⟩ t := by
  have hstep : step ⟨place, field.toList.reverse, fields⟩ ',' = (⟨.fieldStart, [], field :: fields⟩, none) := by
    cases place with
    | inQuotes => exact absurd rfl hp
    | _ => simp [step, stepOutside, State.nextField, isLineEnd]
  rw [readFrom, hstep]

theorem ne_of_isLineEnd (hc : isLineEnd c = true) : c ≠ ',' ∧ c ≠ '"' := by
  constructor <;> (rintro rfl; cases hc)

theorem readFrom_lineEnd {place : Place} (hp : place ≠ .inQuotes) (hb : place ≠ .between) (hc : isLineEnd c = true)
    (field : String) (t : List Char) :
    readFrom ⟨place, field.toList.reverse, fields⟩ (c :: t) = (fields.reverse ++ [field]) :: readFrom .start t := by
  obtain ⟨hcomma, hquote⟩ := ne_of_isLineEnd hc
  have hstep : step ⟨place, field.toList.reverse, fields⟩ c = (.start, some (fields.reverse ++ [field])) := by
    cases place with
    | inQuotes => exact absurd rfl hp
    | between => exact absurd rfl hb
    | _ => simp [step, stepOutside, State.record, hc, hcomma, hquote]
  rw [readFrom, hstep]

theorem readFrom_fieldsText {place : Place} (hp : place = .between ∨ place = .fieldStart) {line : List Char}
    (h : FieldsText record line) (hline : place = .between → line ≠ []) (hc : isLineEnd c = true)
    (fields : List String) (t : List Char) :
    readFrom ⟨place, [], fields⟩ (line ++ c :: t) = (fields.reverse ++ record) :: readFrom .start t := by
  induction h generalizing place fields with
  | single hfield =>
    obtain ⟨place', hout, hbetween, hread⟩ := readFrom_fieldText hp hfield fields
    have hb : place' ≠ .between := fun h => hline (hbetween h).1 (hbetween h).2
    rw [hread, readFrom_lineEnd hout hb hc]
  | cons hfield _ ih =>
    obtain ⟨place', hout, -, hread⟩ := readFrom_fieldText hp hfield fields
    rw [List.append_assoc, List.cons_append, hread, readFrom_comma hout, ih (.inr rfl) nofun]
    simp

/-- Complete records are read as the records that they are, and the reader goes on behind them as at the start. -/
theorem readFrom_completeText (h : CompleteText records cs) (t : List Char) :
    readFrom .start (cs ++ t) = records ++ readFrom .start t := by
  induction h with
  | nil => rfl
  | emptyLine hc _ ih =>
    have hstep : step .start _ = (State.start, none) := if_pos hc
    rw [List.cons_append, readFrom, hstep]
    exact ih
  | record hfields hline hc _ ih =>
    rw [List.append_assoc, List.cons_append, List.cons_append, ← ih]
    exact readFrom_fieldsText (.inl rfl) hfields (fun _ => hline) hc [] _

/-- Complete records are read as the records that they are. -/
theorem readFrom_eq_of_completeText (h : CompleteText records cs) : readFrom .start cs = records := by
  have hread := readFrom_completeText h []
  have hend : readFrom .start [] = [] := rfl
  rwa [List.append_nil, hend, List.append_nil] at hread

/-! ## The byte-order mark -/

/-- The characters behind a byte-order mark, or all where there is none. -/
def unmarked (cs : List Char) : List Char := if cs.head? = some '\uFEFF' then cs.tail else cs

theorem unmarked_of_head?_ne (h : cs.head? ≠ some '\uFEFF') : unmarked cs = cs := if_neg h

theorem read_eq (text : String) : read text = readFrom .start (unmarked text.toList) := by
  unfold read
  split
  · rename_i cs hcs
    rw [hcs, unmarked, List.head?_cons, if_pos rfl, List.tail_cons]
  · rename_i hmark
    rw [unmarked_of_head?_ne]
    intro h
    obtain ⟨cs, hcs⟩ := List.head?_eq_some_iff.1 h
    exact hmark cs hcs

/-- What is put behind a text has no part in its byte-order mark. -/
theorem unmarked_append (h : ds.head? ≠ some '\uFEFF') : unmarked (cs ++ ds) = unmarked cs ++ ds := by
  cases cs with
  | nil => exact unmarked_of_head?_ne h
  | cons c cs =>
    rw [unmarked, unmarked, List.cons_append, List.head?_cons, List.head?_cons]
    split <;> rfl

/-- Complete records in front of a text are read before those of the text. -/
theorem read_append {p t : String} (hp : CompleteText records (unmarked p.toList))
    (ht : t.toList.head? ≠ some '\uFEFF') : read (p ++ t) = records ++ read t := by
  rw [read_eq, read_eq, String.toList_append, unmarked_append ht, unmarked_of_head?_ne ht, readFrom_completeText hp]

/-! ## Texts that leave the reader between records -/

/-- The characters behind a field: the rest of its line, and complete records behind that. -/
inductive Tail : List Char → Prop where
  | lineEnd {records : List Record} {c : Char} {cs : List Char} : isLineEnd c = true → CompleteText records cs →
      Tail (c :: cs)
  | comma {value cs tail : List Char} : FieldText value cs → Tail tail → Tail (',' :: (cs ++ tail))

/-- A field and what stands behind it are a line and complete records behind that. -/
theorem Tail.exists_fieldsText (h : Tail tail) (hfield : FieldText value cs) :
    ∃ record line c rest records, cs ++ tail = line ++ c :: rest ∧ FieldsText record line ∧ isLineEnd c = true ∧
      CompleteText records rest := by
  induction h generalizing value cs with
  | lineEnd hc hrest =>
    have hfield' : FieldText (String.ofList value).toList cs := by
      rwa [String.toList_ofList]
    exact ⟨_, _, _, _, _, rfl, .single hfield', hc, hrest⟩
  | comma hnext _ ih =>
    have hfield' : FieldText (String.ofList value).toList cs := by
      rwa [String.toList_ofList]
    obtain ⟨record, line, c, rest, records, heq, hline, hc, hrest⟩ := ih hnext
    exact ⟨_, _, c, rest, records, by rw [heq, List.append_assoc, List.cons_append], .cons hfield' hline, hc, hrest⟩

/-- Plain characters and the rest of the line. -/
def PlainTail (cs : List Char) : Prop := ∃ rest tail, cs = rest ++ tail ∧ (∀ c ∈ rest, IsPlain c) ∧ Tail tail

/-- Plain characters, of which the first is no quote, and the rest of the line. -/
def BareTail (cs : List Char) : Prop :=
  ∃ rest tail, cs = rest ++ tail ∧ (∀ c ∈ rest, IsPlain c) ∧ rest.head? ≠ some '"' ∧ Tail tail

/-- Characters in quotes up to the closing one, plain characters and the rest of the line. -/
def QuotedTail (cs : List Char) : Prop := ∃ body rest, cs = doubleQuotes body ++ '"' :: rest ∧ BareTail rest

/-- What a text is that leads the reader from a place to a stand between two records. -/
def Continues : Place → List Char → Prop
  | .between, cs => ∃ records, CompleteText records cs
  | .fieldStart, cs => ∃ value ds tail, cs = ds ++ tail ∧ FieldText value ds ∧ Tail tail
  | .bare, cs => PlainTail cs
  | .inQuotes, cs => QuotedTail cs
  | .quoteSeen, cs => BareTail cs ∨ ∃ rest, cs = '"' :: rest ∧ QuotedTail rest

theorem BareTail.continues (h : BareTail cs) : Continues .fieldStart cs := by
  obtain ⟨rest, tail, rfl, hplain, hhead, htail⟩ := h
  exact ⟨rest, rest, tail, rfl, .bare hplain hhead, htail⟩

theorem QuotedTail.continues (h : QuotedTail cs) : Continues .fieldStart ('"' :: cs) := by
  obtain ⟨body, _, rfl, rest, tail, rfl, hplain, hhead, htail⟩ := h
  exact ⟨_, _, tail, by rw [List.cons_append, List.append_assoc, List.cons_append], .quoted body hplain hhead, htail⟩

/-- A line that is not empty and complete records behind it are complete records. -/
theorem Continues.between (h : Continues .fieldStart (c :: cs)) (hc : isLineEnd c = false) :
    Continues .between (c :: cs) := by
  obtain ⟨value, ds, tail, heq, hfield, htail⟩ := h
  obtain ⟨record, line, e, rest, records, heq', hline, he, hrest⟩ := htail.exists_fieldsText hfield
  rw [heq, heq']
  refine ⟨_, .record hline ?_ he hrest⟩
  -- an empty line would start with its line end
  rintro rfl
  rw [heq', List.nil_append] at heq
  rw [(List.cons.inj heq).1, he] at hc
  cases hc

/-- Outside quotes a character ends the field or the line, or it is a plain one. -/
theorem Continues.stepOutside (h : Continues (stepOutside s c).1.place cs) :
    ∃ rest tail, c :: cs = rest ++ tail ∧ (∀ c ∈ rest, IsPlain c) ∧ (∀ d ∈ rest.head?, d = c) ∧ Tail tail := by
  unfold Delimited.stepOutside at h
  split at h
  · rename_i hc
    subst hc
    obtain ⟨value, ds, tail, rfl, hfield, htail⟩ := h
    exact ⟨[], _, rfl, nofun, nofun, .comma hfield htail⟩
  · rename_i hcomma
    split at h
    · rename_i hend
      obtain ⟨records, hrecords⟩ := h
      exact ⟨[], _, rfl, nofun, nofun, .lineEnd hend hrecords⟩
    · rename_i hend
      obtain ⟨rest, tail, rfl, hplain, htail⟩ := h
      refine ⟨c :: rest, tail, rfl, ?_, fun d hd => (Option.some.inj hd).symm, htail⟩
      exact List.forall_mem_cons.2 ⟨⟨hcomma, Bool.not_eq_true _ ▸ hend⟩, hplain⟩

theorem Continues.bareTail (h : Continues (Delimited.stepOutside s c).1.place cs) (hc : c ≠ '"') :
    BareTail (c :: cs) := by
  obtain ⟨rest, tail, heq, hplain, hhead, htail⟩ := h.stepOutside
  exact ⟨rest, tail, heq, hplain, fun h => hc (hhead '"' h).symm, htail⟩

/-- One character before a text that leads the reader on from the place behind it. -/
theorem Continues.cons (h : Continues (step s c).1.place cs) : Continues s.place (c :: cs) := by
  unfold step at h
  split at h
  · rename_i hplace
    rw [hplace]
    split at h
    · rename_i hend
      rw [hplace] at h
      obtain ⟨records, hrecords⟩ := h
      exact ⟨records, .emptyLine hend hrecords⟩
    · rename_i hend
      rw [Bool.not_eq_true] at hend
      refine Continues.between ?_ hend
      split at h
      · rename_i hc
        subst hc
        exact QuotedTail.continues h
      · exact (h.bareTail ‹_›).continues
  · rename_i hplace
    rw [hplace]
    split at h
    · rename_i hc
      subst hc
      exact QuotedTail.continues h
    · exact (h.bareTail ‹_›).continues
  · rename_i hplace
    rw [hplace]
    obtain ⟨rest, tail, heq, hplain, -, htail⟩ := h.stepOutside
    exact ⟨rest, tail, heq, hplain, htail⟩
  · rename_i hplace
    rw [hplace]
    split at h
    · -- a quote closes the quotes, or another one follows it
      rename_i hc
      subst hc
      rcases h with hbare | ⟨_, rfl, body, rest, rfl, hrest⟩
      · exact ⟨[], cs, rfl, hbare⟩
      · exact ⟨'"' :: body, rest, rfl, hrest⟩
    · rename_i hc
      obtain ⟨body, rest, rfl, hrest⟩ := h
      exact ⟨c :: body, rest, by rw [doubleQuotes, if_neg hc, List.cons_append], hrest⟩
  · rename_i hplace
    rw [hplace]
    split at h
    · rename_i hc
      subst hc
      exact .inr ⟨cs, rfl, h⟩
    · exact .inl (h.bareTail ‹_›)

theorem continues_of_after (h : (after s cs).place = .between) : Continues s.place cs := by
  induction cs generalizing s with
  | nil =>
    have hplace : s.place = .between := h
    rw [hplace]
    exact ⟨[], .nil⟩
  | cons c cs ih => exact Continues.cons (ih h)

/-- A text behind which the reader stands between two records is made of complete records, those that it reads. -/
theorem completeText_readFrom (h : (after .start cs).place = .between) : CompleteText (readFrom .start cs) cs := by
  obtain ⟨records, hrecords⟩ : Continues .between cs := continues_of_after (s := .start) h
  rwa [readFrom_eq_of_completeText hrecords]

end Registrar.Delimited
