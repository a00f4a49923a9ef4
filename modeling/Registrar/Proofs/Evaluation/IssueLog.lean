import Registrar.Evaluation.IssueLog
import Registrar.Proofs.Ordered

/-!
# What an issue log holds

Recording a message adds it to the messages of its row, behind the others and only once, and leaves all other rows alone
(`messages_record`). So a row has the messages that were recorded for it (`mem_messages_recordAll`). A message counts as
often as it was recorded (`count_recordAll`), and a row for which nothing was recorded stays as it was
(`get?_foldl_recordAll`).
-/

namespace Registrar

namespace Place

instance : Std.Irrefl (α := Place) (· < ·) where
  irrefl a h := by
    rcases h with h | ⟨-, h⟩ <;> exact String.lt_irrefl _ h

instance : Std.Trichotomous (α := Place) (· < ·) where
  trichotomous a b hab hba := by
    obtain ⟨sheet, key⟩ := a
    obtain ⟨sheet', key'⟩ := b
    obtain rfl : sheet = sheet' := Std.Trichotomous.trichotomous (r := (· < ·)) _ _
      (fun h => hab (.inl h)) fun h => hba (.inl h)
    obtain rfl : key = key' := Std.Trichotomous.trichotomous (r := (· < ·)) _ _
      (fun h => hab (.inr ⟨rfl, h⟩)) fun h => hba (.inr ⟨rfl, h⟩)
    rfl

end Place

namespace IssueLog

variable {log : IssueLog} {sheet sheet' key key' message m : String}

/-! ## One row -/

/-- The messages of a row. -/
def messagesIn (held : Option (Keyed Nat)) : List String := (held.map Keyed.keys).getD []

/-- How often a message counts in a row. -/
def countIn (held : Option (Keyed Nat)) (m : String) : Nat := (held.bind fun messages => messages.get? m).getD 0

theorem nodup_messagesIn (held : Option (Keyed Nat)) : (messagesIn held).Nodup := by
  cases held with
  | none => exact List.nodup_nil
  | some messages => exact messages.nodup_keys

theorem keys_bump (message : String) (times : Nat) (held : Option (Keyed Nat)) :
    (bump message times held).keys =
      if message ∈ messagesIn held then messagesIn held else messagesIn held ++ [message] := by
  rw [bump, Keyed.keys_insert]
  cases held <;> rfl

theorem countIn_bump (message : String) (times : Nat) (held : Option (Keyed Nat)) (m : String) :
    countIn (some (bump message times held)) m = countIn held m + if m = message then times else 0 := by
  rw [countIn, Option.bind_some, bump, Keyed.get?_insert]
  split
  · subst m
    cases held <;> rfl
  · cases held <;> rfl

/-! ## The messages that were recorded -/

/-- What recording does to the messages of every row. -/
theorem messages_record (log : IssueLog) (sheet key message sheet' key' : String) :
    (log.record sheet key message).messages sheet' key' =
      if sheet' = sheet ∧ key' = key ∧ message ∉ log.messages sheet key then log.messages sheet key ++ [message]
      else log.messages sheet' key' := by
  rw [messages, record, recordTimes, Ordered.get?_update]
  by_cases hplace : sheet' = sheet ∧ key' = key
  · obtain ⟨rfl, rfl⟩ := hplace
    rw [if_pos rfl, Option.map_some, Option.getD_some, keys_bump]
    change (if message ∈ log.messages sheet' key' then log.messages sheet' key'
      else log.messages sheet' key' ++ [message]) = _
    by_cases hmem : message ∈ log.messages sheet' key'
    · rw [if_pos hmem, if_neg fun h => h.2.2 hmem]
    · rw [if_neg hmem, if_pos ⟨rfl, rfl, hmem⟩]
  · have hne : (⟨sheet', key'⟩ : Place) ≠ ⟨sheet, key⟩ := fun heq => hplace (Place.mk.inj heq)
    rw [if_neg hne, if_neg fun h => hplace ⟨h.1, h.2.1⟩, messages]

theorem mem_messages_record :
    m ∈ (log.record sheet key message).messages sheet' key' ↔
      m ∈ log.messages sheet' key' ∨ sheet' = sheet ∧ key' = key ∧ m = message := by
  rw [messages_record]
  by_cases hplace : sheet' = sheet ∧ key' = key
  · obtain ⟨rfl, rfl⟩ := hplace
    by_cases hmem : message ∈ log.messages sheet' key'
    · rw [if_neg fun h => h.2.2 hmem, or_iff_left_of_imp]
      rintro ⟨-, -, rfl⟩
      exact hmem
    · simp [hmem]
  · rw [if_neg fun h => hplace ⟨h.1, h.2.1⟩, or_iff_left fun h => hplace ⟨h.1, h.2.1⟩]

/-- What recording the messages of one row does. -/
theorem mem_messages_recordAll {messages : List String} :
    m ∈ (log.recordAll sheet key messages).messages sheet' key' ↔
      m ∈ log.messages sheet' key' ∨ sheet' = sheet ∧ key' = key ∧ m ∈ messages := by
  unfold recordAll
  induction messages generalizing log with
  | nil => simp
  | cons message rest ih =>
    rw [List.foldl_cons, ih, mem_messages_record, List.mem_cons, or_assoc, ← and_or_left, ← and_or_left]

/-- What recording the messages of several rows of a sheet does, each under its key. -/
theorem mem_messages_foldl {α : Type} (keyOf : α → String) (issuesOf : α → List String) {rows : List α} :
    m ∈ (rows.foldl (fun log a => log.recordAll sheet (keyOf a) (issuesOf a)) log).messages sheet' key' ↔
      m ∈ log.messages sheet' key' ∨ sheet' = sheet ∧ ∃ a ∈ rows, keyOf a = key' ∧ m ∈ issuesOf a := by
  induction rows generalizing log with
  | nil => simp
  | cons a rest ih =>
    rw [List.foldl_cons, ih, mem_messages_recordAll, or_assoc, ← and_or_left]
    simp [eq_comm]

/-! ## How often a message was recorded -/

/-- Recording counts the message once more, and no other. -/
theorem count_record (log : IssueLog) (sheet key message sheet' key' m : String) :
    (log.record sheet key message).count sheet' key' m =
      log.count sheet' key' m + if sheet' = sheet ∧ key' = key ∧ m = message then 1 else 0 := by
  rw [count, record, recordTimes, Ordered.get?_update]
  by_cases hplace : sheet' = sheet ∧ key' = key
  · obtain ⟨rfl, rfl⟩ := hplace
    rw [if_pos rfl]
    simp only [true_and]
    exact countIn_bump message 1 _ m
  · have hne : (⟨sheet', key'⟩ : Place) ≠ ⟨sheet, key⟩ := fun heq => hplace (Place.mk.inj heq)
    rw [if_neg hne, if_neg fun h => hplace ⟨h.1, h.2.1⟩, Nat.add_zero, count]

theorem count_recordAll (messages : List String) :
    (log.recordAll sheet key messages).count sheet' key' m =
      log.count sheet' key' m + if sheet' = sheet ∧ key' = key then messages.count m else 0 := by
  unfold recordAll
  induction messages generalizing log with
  | nil => simp
  | cons message rest ih =>
    rw [List.foldl_cons, ih, count_record, List.count_cons]
    by_cases hplace : sheet' = sheet ∧ key' = key
    · obtain ⟨rfl, rfl⟩ := hplace
      by_cases hm : m = message
      · subst hm
        simp
        omega
      · have hm' : ¬ message = m := fun h => hm h.symm
        simp [hm, hm']
    · rw [if_neg hplace, if_neg hplace, if_neg fun h => hplace ⟨h.1, h.2.1⟩]

theorem get?_recordAll_of_ne (h : (⟨sheet', key'⟩ : Place) ≠ ⟨sheet, key⟩) (messages : List String) :
    (log.recordAll sheet key messages).places.get? ⟨sheet', key'⟩ = log.places.get? ⟨sheet', key'⟩ := by
  unfold recordAll
  induction messages generalizing log with
  | nil => rfl
  | cons message rest ih => rw [List.foldl_cons, ih, record, recordTimes, Ordered.get?_update, if_neg h]

section Rows

variable {issuesOf : String → List String} {keys : List String}

/-- What recording the messages of several rows of a sheet does to how often each counts. -/
theorem count_foldl_recordAll (hn : keys.Nodup) :
    (keys.foldl (fun log key => log.recordAll sheet key (issuesOf key)) log).count sheet' key' m =
      log.count sheet' key' m + if sheet' = sheet ∧ key' ∈ keys then (issuesOf key').count m else 0 := by
  induction keys generalizing log with
  | nil => simp
  | cons k rest ih =>
    obtain ⟨hk, hrest⟩ := List.nodup_cons.1 hn
    rw [List.foldl_cons, ih hrest, count_recordAll]
    by_cases hsheet : sheet' = sheet
    · by_cases hkey : key' = k
      · subst hkey
        simp [hsheet, hk]
      · simp [hsheet, hkey]
    · simp [hsheet]

/-- A row for which nothing is recorded stays as it was. -/
theorem get?_foldl_recordAll (h : sheet' = sheet → issuesOf key' = []) :
    (keys.foldl (fun log key => log.recordAll sheet key (issuesOf key)) log).places.get? ⟨sheet', key'⟩ =
      log.places.get? ⟨sheet', key'⟩ := by
  induction keys generalizing log with
  | nil => rfl
  | cons k rest ih =>
    rw [List.foldl_cons, ih]
    by_cases hplace : (⟨sheet', key'⟩ : Place) = ⟨sheet, k⟩
    · obtain ⟨hsheet, rfl⟩ := Place.mk.inj hplace
      rw [h hsheet]
      rfl
    · exact get?_recordAll_of_ne hplace (issuesOf k)

end Rows

end IssueLog

end Registrar
