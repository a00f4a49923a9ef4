import Registrar.Directory.Changes
import Registrar.Proofs.Sheet.Order

/-!
# Changes by user

What recording an ID change and flagging a user do to what is recorded for each user (`renameOf?_record`,
`mem_purges_flag`). The change of a user who has none yet goes to the end (`putRename_of_not_mem`), and while every user
has one change the sheet of the changes has one row for each (`entries_toSheet`).
-/

namespace Registrar

/-- The row of an ID change. -/
def IdChange.row (c : IdChange) : Row .sisIdChanges :=
  .ofPairs _ [(.oldId, c.oldId), (.newId, c.newId), (.changeType, "user")]

namespace Changes

/-- The ID change recorded for a user. -/
def renameOf? (c : Changes) (user : String) : Option IdChange := c.renames.find? fun r => r.user = user

theorem find?_putRename (change : IdChange) (l : List IdChange) (user : String) :
    (putRename change l).find? (fun r => r.user = user) =
      if change.user = user then some change else l.find? fun r => r.user = user := by
  induction l with
  | nil => by_cases h : change.user = user <;> simp [putRename, h]
  | cons c rest ih =>
    rw [putRename]
    split
    · rename_i hc
      by_cases h : change.user = user <;> simp [h, hc]
    · rename_i hc
      rw [List.find?_cons, List.find?_cons, ih]
      by_cases hu : c.user = user
      · have hne : ¬ change.user = user := fun h => hc (hu.trans h.symm)
        simp [hu, hne]
      · simp [hu]

theorem renameOf?_record (c : Changes) (change : IdChange) (user : String) :
    (c.record change).renameOf? user = if change.user = user then some change else c.renameOf? user :=
  find?_putRename change c.renames user

theorem mem_purges_flag {c : Changes} {user user' : String} :
    user' ∈ (c.flag user).purges ↔ user' ∈ c.purges ∨ user' = user := by
  unfold flag
  split
  · rename_i h
    exact ⟨Or.inl, fun h' => h'.elim id fun e => e ▸ h⟩
  · simp

@[simp] theorem purges_record (c : Changes) (change : IdChange) : (c.record change).purges = c.purges := rfl

@[simp] theorem renameOf?_flag (c : Changes) (user user' : String) :
    (c.flag user).renameOf? user' = c.renameOf? user' := by
  unfold flag
  split <;> rfl

theorem putRename_of_not_mem {change : IdChange} {l : List IdChange} (h : change.user ∉ l.map IdChange.user) :
    putRename change l = l ++ [change] := by
  induction l with
  | nil => rfl
  | cons c rest ih =>
    rw [List.map_cons, List.mem_cons, not_or] at h
    rw [putRename, if_neg (Ne.symm h.1), ih h.2]
    rfl

theorem mem_putRename {c change : IdChange} {l : List IdChange} (h : c ∈ putRename change l) : c = change ∨ c ∈ l := by
  induction l with
  | nil => exact .inl (List.mem_singleton.1 h)
  | cons c' rest ih =>
    rw [putRename] at h
    split at h
    · exact (List.mem_cons.1 h).imp id (List.mem_cons_of_mem _)
    · rcases List.mem_cons.1 h with rfl | h
      · exact .inr List.mem_cons_self
      · exact (ih h).imp id (List.mem_cons_of_mem _)

/-- The changes of different users are one row each, in their order. -/
theorem entries_toSheet {c : Changes} (h : (c.renames.map IdChange.user).Nodup) :
    c.toSheet.entries = c.renames.map fun change => (change.user, change.row) := by
  have hrows : ∀ (l : List IdChange) (s : Sheet .sisIdChanges),
      (l.foldl (fun s change => s.insert change.user change.row) s).rows =
        s.rows.insertAll (l.map fun change => (change.user, change.row)) := by
    intro l
    induction l with
    | nil => exact fun _ => rfl
    | cons change rest ih => exact fun s => ih (s.insert change.user change.row)
  show (c.renames.foldl (fun s change => s.insert change.user change.row) (Sheet.empty _)).rows.entries = _
  rw [hrows, Keyed.entries_insertAll]
  · rfl
  · rw [List.map_map]
    exact h

end Changes

end Registrar
