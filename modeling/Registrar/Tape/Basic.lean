import Registrar.Batches
import Registrar.Document.Value

/-!
# Tapes

A `Tape` keeps calls and what came of them in the order in which they were made. Playing it back gives, for every pair
of family and method, the outcomes of that pair in their order (`Tape.next`), however calls of other pairs come in
between.
-/

namespace Registrar

/-- One call and what came of it. -/
structure Interaction where
  family : String
  method : String
  input : Value
  output : Value

namespace Interaction

/-- Whether this is a call of a method of a family. -/
def isOf (family method : String) (i : Interaction) : Bool := i.family == family && i.method == method

end Interaction

/-- Calls in the order in which they were made. -/
abbrev Tape := List Interaction

namespace Tape

/-- The calls of one pair, in order. -/
def of (family method : String) (t : Tape) : Tape := t.filter (Interaction.isOf family method)

/-- The first call of a pair, and the tape without it. -/
def take? (family method : String) : Tape → Option (Interaction × Tape)
  | [] => none
  | i :: rest =>
    if i.isOf family method then some (i, rest)
    else (take? family method rest).map fun (found, rest) => (found, i :: rest)

/-- The pairs on the tape, each once. -/
def pairs (t : Tape) : List (String × String) := distinct (t.map fun i => (i.family, i.method))

/-- The pairs that are left, each with the number of its calls, in the order of their texts. -/
def inventory (t : Tape) : List String :=
  ((pairs t).map fun (family, method) => s!"{family}::{method} ({(of family method t).length})").mergeSort
    fun a b => decide (a ≤ b)

/-- The wording when no call of a pair is left. -/
def exhausted (family method : String) (t : Tape) : String :=
  s!"Cassette exhausted for {family}::{method}; remaining: [" ++ String.intercalate ", " (inventory t) ++ "]"

/-- The outcome of the next call of a pair, and what is left. -/
def next (family method : String) (t : Tape) : Except String Value × Tape :=
  match take? family method t with
  | some (i, rest) => (.ok i.output, rest)
  | none => (.error (exhausted family method t), t)

/-! ## Laws -/

theorem take?_eq_none_iff {family method : String} {t : Tape} :
    take? family method t = none ↔ of family method t = [] := by
  induction t with
  | nil => simp [take?, of]
  | cons i t ih =>
    by_cases h : i.isOf family method
    · simp [take?, of, h]
    · simpa [take?, of, h] using ih

/-- Taking a call takes the first one of its pair. -/
theorem of_eq_cons_of_take? {family method : String} {t rest : Tape} {i : Interaction}
    (h : take? family method t = some (i, rest)) : of family method t = i :: of family method rest := by
  induction t generalizing rest with
  | nil => simp [take?] at h
  | cons j t ih =>
    by_cases hj : j.isOf family method
    · simp only [take?, hj, if_true, Option.some.injEq, Prod.mk.injEq] at h
      simp [of, ← h.1, ← h.2, hj]
    · simp only [take?, hj, if_false, Option.map_eq_some_iff, Bool.false_eq_true, Prod.mk.injEq] at h
      obtain ⟨⟨_, r⟩, hr, rfl, rfl⟩ := h
      simpa [of, hj] using ih hr

/-- Taking a call of a pair leaves those of all others. -/
theorem of_eq_of_take? {family method family' method' : String} {t rest : Tape} {i : Interaction}
    (h : take? family method t = some (i, rest)) (hne : (family', method') ≠ (family, method)) :
    of family' method' rest = of family' method' t := by
  induction t generalizing rest with
  | nil => simp [take?] at h
  | cons j t ih =>
    by_cases hj : j.isOf family method
    · have hj' : j.isOf family' method' = false := by
        simp only [Interaction.isOf, Bool.and_eq_true, beq_iff_eq] at hj
        simp only [Interaction.isOf, Bool.and_eq_false_iff, beq_eq_false_iff_ne]
        by_cases hp : j.family = family'
        · right
          intro hm
          exact hne (by rw [← hp, ← hm, hj.1, hj.2])
        · exact .inl hp
      simp only [take?, hj, if_true, Option.some.injEq, Prod.mk.injEq] at h
      simp [of, hj', ← h.2]
    · simp only [take?, hj, if_false, Option.map_eq_some_iff, Bool.false_eq_true, Prod.mk.injEq] at h
      obtain ⟨⟨_, r⟩, hr, rfl, rfl⟩ := h
      have := ih hr
      simp only [of, List.filter_cons] at this ⊢
      rw [this]

theorem length_of_take? {family method : String} {t rest : Tape} {i : Interaction}
    (h : take? family method t = some (i, rest)) : t.length = rest.length + 1 := by
  induction t generalizing rest with
  | nil => simp [take?] at h
  | cons j t ih =>
    by_cases hj : j.isOf family method
    · simp only [take?, hj, if_true, Option.some.injEq, Prod.mk.injEq] at h
      simp [← h.2]
    · simp only [take?, hj, if_false, Option.map_eq_some_iff, Bool.false_eq_true, Prod.mk.injEq] at h
      obtain ⟨⟨_, r⟩, hr, rfl, rfl⟩ := h
      simp [ih hr]

end Tape

end Registrar
