/-!
# Collections in key order

An `Ordered κ α` holds values under strictly ascending keys, so two collections that hold the same values are equal.
`update` changes the value under one key, or enters it where it belongs.
-/

namespace Registrar

variable {κ α : Type} [LT κ] [DecidableLT κ]

/-- Entries under strictly ascending keys. -/
structure Ordered (κ α : Type) [LT κ] where
  /-- Keys and values, smallest key first. -/
  entries : List (κ × α)
  ascending : (entries.map Prod.fst).Pairwise (· < ·)

/-- The entries after `f` has changed what stands under `k`. -/
def updateEntry (k : κ) (f : Option α → α) : List (κ × α) → List (κ × α)
  | [] => [(k, f none)]
  | (k', v) :: rest =>
    if k < k' then (k, f none) :: (k', v) :: rest
    else if k' < k then (k', v) :: updateEntry k f rest
    else (k', f (some v)) :: rest

theorem mem_map_fst_updateEntry {k x : κ} {f : Option α → α} {l : List (κ × α)}
    (h : x ∈ (updateEntry k f l).map Prod.fst) : x = k ∨ x ∈ l.map Prod.fst := by
  induction l with
  | nil => simpa [updateEntry] using h
  | cons e rest ih =>
    obtain ⟨k', v⟩ := e
    simp only [updateEntry] at h
    split at h
    · simpa using h
    · split at h
      · rcases List.mem_cons.1 h with h | h
        · simp [h]
        · rcases ih h with h | h <;> simp [h]
      · exact .inr h

theorem ascending_updateEntry [Trans (α := κ) (· < ·) (· < ·) (· < ·)] (k : κ) (f : Option α → α)
    {l : List (κ × α)} (h : (l.map Prod.fst).Pairwise (· < ·)) :
    ((updateEntry k f l).map Prod.fst).Pairwise (· < ·) := by
  induction l with
  | nil => simp [updateEntry]
  | cons e rest ih =>
    obtain ⟨k', v⟩ := e
    have hr : ∀ a ∈ rest.map Prod.fst, k' < a := (List.pairwise_cons.1 h).1
    have hp : (rest.map Prod.fst).Pairwise (· < ·) := (List.pairwise_cons.1 h).2
    simp only [updateEntry]
    split
    · rename_i hk
      simp only [List.map_cons]
      refine List.pairwise_cons.2 ⟨fun a ha => ?_, List.pairwise_cons.2 ⟨hr, hp⟩⟩
      rcases List.mem_cons.1 ha with rfl | ha
      · exact hk
      · exact Trans.trans hk (hr a ha)
    · split
      · rename_i hk
        simp only [List.map_cons]
        refine List.pairwise_cons.2 ⟨fun a ha => ?_, ih hp⟩
        rcases mem_map_fst_updateEntry ha with rfl | ha
        · exact hk
        · exact hr a ha
      · exact List.pairwise_cons.2 ⟨hr, hp⟩

namespace Ordered

/-- No entries. -/
def empty : Ordered κ α := ⟨[], by simp⟩

instance : EmptyCollection (Ordered κ α) := ⟨empty⟩

instance : Inhabited (Ordered κ α) := ⟨empty⟩

instance [DecidableEq κ] [DecidableEq α] : DecidableEq (Ordered κ α) := fun a b =>
  decidable_of_iff (a.entries = b.entries) ⟨fun h => by cases a; cases b; simp_all, fun h => h ▸ rfl⟩

/-- The keys, smallest first. -/
def keys (m : Ordered κ α) : List κ := m.entries.map Prod.fst

/-- The value under a key. -/
def get? [BEq κ] (m : Ordered κ α) (k : κ) : Option α := m.entries.lookup k

/-- No entry is held. -/
def isEmpty (m : Ordered κ α) : Bool := m.entries.isEmpty

/-- Changes what stands under `k`, where `f none` enters a new key. -/
def update [Trans (α := κ) (· < ·) (· < ·) (· < ·)] (m : Ordered κ α) (k : κ) (f : Option α → α) : Ordered κ α :=
  ⟨updateEntry k f m.entries, ascending_updateEntry k f m.ascending⟩

end Ordered

end Registrar
