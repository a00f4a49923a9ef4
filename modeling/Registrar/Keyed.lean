/-!
# Keyed collections in insertion order

A `Keyed α` holds values under pairwise distinct text keys, in the order in which the keys came first. Storing under a
key that is present replaces the value and keeps its place (`keys_insert_of_mem`), a new key goes to the end
(`entries_insert_of_not_mem`), and looking up after storing finds what was stored (`get?_insert`).
-/

namespace Registrar

variable {α β : Type}

/-- Entries under distinct keys. -/
structure Keyed (α : Type) where
  /-- Keys and values, oldest key first. -/
  entries : List (String × α)
  nodup_keys : (entries.map Prod.fst).Nodup
  deriving DecidableEq

/-- The entries after storing `v` under `k`. -/
def putEntry (k : String) (v : α) : List (String × α) → List (String × α)
  | [] => [(k, v)]
  | (k', v') :: rest => if k' = k then (k, v) :: rest else (k', v') :: putEntry k v rest

theorem map_fst_putEntry (k : String) (v : α) (l : List (String × α)) :
    (putEntry k v l).map Prod.fst = if k ∈ l.map Prod.fst then l.map Prod.fst else l.map Prod.fst ++ [k] := by
  induction l with
  | nil => simp [putEntry]
  | cons e rest ih =>
    obtain ⟨k', v'⟩ := e
    by_cases h : k' = k
    · simp [putEntry, h]
    · have h' : ¬ k = k' := fun e => h e.symm
      simp only [putEntry, h, if_false, List.map_cons, ih, List.mem_cons, h', false_or]
      split <;> simp

namespace Keyed

/-- No entries. -/
def empty : Keyed α := ⟨[], by simp⟩

instance : EmptyCollection (Keyed α) := ⟨empty⟩

instance : Inhabited (Keyed α) := ⟨empty⟩

/-- The keys, oldest first. -/
def keys (m : Keyed α) : List String := m.entries.map Prod.fst

/-- The values, in the order of their keys. -/
def values (m : Keyed α) : List α := m.entries.map Prod.snd

/-- The number of entries. -/
def size (m : Keyed α) : Nat := m.entries.length

/-- No entry is held. -/
def isEmpty (m : Keyed α) : Bool := m.entries.isEmpty

/-- The value under a key. -/
def get? (m : Keyed α) (k : String) : Option α := m.entries.lookup k

/-- Whether a key is present. -/
def contains (m : Keyed α) (k : String) : Bool := (m.get? k).isSome

/-- Stores a value under a key. -/
def insert (m : Keyed α) (k : String) (v : α) : Keyed α where
  entries := putEntry k v m.entries
  nodup_keys := by
    rw [map_fst_putEntry]
    split
    · exact m.nodup_keys
    · rename_i h
      refine List.nodup_append.2 ⟨m.nodup_keys, by simp, ?_⟩
      intro a ha b hb
      rw [List.mem_singleton.1 hb]
      exact fun e => h (e ▸ ha)

/-- Stores a value under a key that is not present yet, and leaves a present one alone. -/
def insertNew (m : Keyed α) (k : String) (v : α) : Keyed α := if m.contains k then m else m.insert k v

/-- Changes every value. -/
def map (f : α → β) (m : Keyed α) : Keyed β where
  entries := m.entries.map fun (k, v) => (k, f v)
  nodup_keys := by simpa [List.map_map, Function.comp_def] using m.nodup_keys

/-- Stores the pairs one after the other. -/
def insertAll (m : Keyed α) (pairs : List (String × α)) : Keyed α :=
  pairs.foldl (fun m (k, v) => m.insert k v) m

/-- The pairs stored one after the other from nothing. -/
def ofList (pairs : List (String × α)) : Keyed α := empty.insertAll pairs

theorem keys_insert (m : Keyed α) (k : String) (v : α) :
    (m.insert k v).keys = if k ∈ m.keys then m.keys else m.keys ++ [k] := map_fst_putEntry k v m.entries

theorem keys_insert_of_mem {m : Keyed α} {k : String} (v : α) (h : k ∈ m.keys) : (m.insert k v).keys = m.keys := by
  simp [keys_insert, h]

theorem putEntry_of_not_mem {k : String} {v : α} {l : List (String × α)} (h : k ∉ l.map Prod.fst) :
    putEntry k v l = l ++ [(k, v)] := by
  induction l with
  | nil => rfl
  | cons e rest ih =>
    obtain ⟨k', v'⟩ := e
    simp only [List.map_cons, List.mem_cons, not_or] at h
    have h' : ¬ k' = k := fun e => h.1 e.symm
    simp [putEntry, h', ih h.2]

theorem entries_insert_of_not_mem {m : Keyed α} {k : String} (v : α) (h : k ∉ m.keys) :
    (m.insert k v).entries = m.entries ++ [(k, v)] := putEntry_of_not_mem h

theorem lookup_putEntry (k k' : String) (v : α) (l : List (String × α)) :
    (putEntry k v l).lookup k' = if k' = k then some v else l.lookup k' := by
  induction l with
  | nil =>
    by_cases h : k' = k
    · simp [putEntry, h]
    · have : (k' == k) = false := by simp [h]
      simp [putEntry, List.lookup_cons, h, this]
  | cons e rest ih =>
    obtain ⟨k₀, v₀⟩ := e
    by_cases h₀ : k₀ = k
    · subst h₀
      by_cases h : k' = k₀
      · simp [putEntry, h]
      · have : (k' == k₀) = false := by simp [h]
        simp [putEntry, List.lookup_cons, h, this]
    · simp only [putEntry, h₀, if_false, List.lookup_cons]
      by_cases h : k' = k₀
      · subst h; simp [h₀]
      · have : (k' == k₀) = false := by simp [h]
        simp only [this, ih]

theorem get?_insert (m : Keyed α) (k k' : String) (v : α) :
    (m.insert k v).get? k' = if k' = k then some v else m.get? k' := lookup_putEntry k k' v m.entries

@[simp] theorem get?_insert_self (m : Keyed α) (k : String) (v : α) : (m.insert k v).get? k = some v := by
  simp [get?_insert]

@[simp] theorem get?_empty (k : String) : (empty : Keyed α).get? k = none := rfl

theorem contains_iff_mem_keys {m : Keyed α} {k : String} : m.contains k = true ↔ k ∈ m.keys := by
  obtain ⟨l, hl⟩ := m
  simp only [contains, get?, keys]
  clear hl
  induction l with
  | nil => simp
  | cons e rest ih =>
    obtain ⟨k', v'⟩ := e
    by_cases h : k = k'
    · simp [h]
    · have : (k == k') = false := by simp [h]
      simp [List.lookup_cons, this, ih, h]

end Keyed

end Registrar
