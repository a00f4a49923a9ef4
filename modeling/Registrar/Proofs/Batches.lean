import Mathlib.Data.List.Nodup
import Registrar.Batches

/-!
# Laws of batches and distinct elements

A batch size of zero counts as one (`batches_zero`), and no batch is empty or too long (`mem_batches`). The distinct
elements of a list are what is left when later copies are erased (`distinct_eq_eraseDups`): every element once
(`mem_distinct`, `nodup_distinct`), so all of them where there are no copies (`distinct_of_nodup`) and more than one
where some two differ (`one_lt_length_distinct_iff`). They come in the order of their first places
(`firstAppearances_distinct`). Sorting texts does not depend on the order before (`mergeSort_eq_of_perm`), and distinct
texts that are sorted ascend (`pairwise_lt_mergeSort_distinct`). What comes of one of them is found among what comes of
all (`filter_filterMap_of_nodup`).
-/

namespace Registrar

variable {α : Type}

theorem batches_zero (l : List α) : batches 0 l = batches 1 l := by
  induction l with
  | nil => rw [batches, batches]
  | cons a rest ih =>
    rw [batches, batches]
    simpa using ih

theorem mem_batches {n : Nat} {l b : List α} (h : b ∈ batches n l) : b ≠ [] ∧ b.length ≤ max 1 n := by
  fun_induction batches n l with
  | case1 => cases h
  | case2 a rest ih =>
    rcases List.mem_cons.1 h with rfl | h
    · refine ⟨List.cons_ne_nil _ _, ?_⟩
      rw [List.length_cons, List.length_take]
      omega
    · exact ih h

theorem filter_distinct [DecidableEq α] (p : α → Bool) (l : List α) :
    (distinct l).filter p = distinct (l.filter p) := by
  induction l with
  | nil => rfl
  | cons a rest ih =>
    rw [distinct, List.filter_cons, List.filter_cons]
    split
    · rw [distinct, ← ih, List.filter_filter, List.filter_filter]
      congr 2
      funext b
      exact Bool.and_comm _ _
    · rename_i hp
      rw [← ih, List.filter_filter]
      -- an element that `p` refuses drops out anyway
      apply List.filter_congr
      intro b _
      by_cases hb : b = a
      · subst hb
        simp [hp]
      · simp [hb]

theorem distinct_eq_eraseDups [DecidableEq α] (l : List α) : distinct l = l.eraseDups := by
  induction h : l.length using Nat.strongRecOn generalizing l with
  | ind n ih =>
    cases l with
    | nil => rfl
    | cons a rest =>
      have hlen : (rest.filter fun b => !b == a).length < n := by
        have := List.length_filter_le (fun b => !b == a) rest
        simp only [List.length_cons] at h
        omega
      rw [distinct, filter_distinct, List.eraseDups_cons, ← ih _ hlen _ rfl]
      congr 2
      apply List.filter_congr
      intro b _
      by_cases hb : b = a <;> simp [hb]

theorem mem_distinct [DecidableEq α] {a : α} {l : List α} : a ∈ distinct l ↔ a ∈ l := by
  rw [distinct_eq_eraseDups, List.mem_eraseDups]

theorem nodup_distinct [DecidableEq α] (l : List α) : (distinct l).Nodup := by
  induction l with
  | nil => exact List.nodup_nil
  | cons a rest ih =>
    rw [distinct, List.nodup_cons]
    exact ⟨fun h => of_decide_eq_true (List.mem_filter.1 h).2 rfl, ih.filter _⟩

theorem distinct_of_nodup [DecidableEq α] {l : List α} (h : l.Nodup) : distinct l = l := by
  induction l with
  | nil => rfl
  | cons a rest ih =>
    obtain ⟨ha, hrest⟩ := List.nodup_cons.1 h
    rw [distinct, ih hrest, List.filter_eq_self.2]
    intro b hb
    exact decide_eq_true fun heq : b = a => ha (heq ▸ hb)

/-- A further element counts where it is new. -/
theorem distinct_append_singleton [DecidableEq α] (l : List α) (a : α) :
    distinct (l ++ [a]) = if a ∈ l then distinct l else distinct l ++ [a] := by
  rw [distinct_eq_eraseDups, distinct_eq_eraseDups, List.eraseDups_append, List.removeAll]
  split
  · rename_i ha
    simp [ha]
  · rename_i ha
    simp [ha, List.eraseDups_cons]

theorem distinct_append [DecidableEq α] (l l' : List α) :
    distinct (l ++ l') = distinct l ++ distinct (l'.filter fun a => a ∉ l) := by
  rw [distinct_eq_eraseDups, List.eraseDups_append, distinct_eq_eraseDups, distinct_eq_eraseDups, List.removeAll]
  simp

/-- A list without copies stays when its front is put before it. -/
theorem distinct_append_of_prefix [DecidableEq α] {l l' : List α} (hp : l <+: l') (hn : l'.Nodup) :
    distinct (l ++ l') = l' := by
  obtain ⟨rest, rfl⟩ := hp
  obtain ⟨hl, hrest, hapart⟩ := List.nodup_append.1 hn
  have hnew : rest.filter (fun a => a ∉ l) = rest :=
    List.filter_eq_self.2 fun a ha => decide_eq_true fun hmem => hapart a hmem a ha rfl
  have hold : l.filter (fun a => a ∉ l) = [] := List.filter_eq_nil_iff.2 fun a ha => by simpa using ha
  rw [distinct_append, distinct_of_nodup hl, List.filter_append, hold, hnew, List.nil_append, distinct_of_nodup hrest]

/-- The order does not matter for which elements are kept. -/
theorem distinct_perm [DecidableEq α] {l l' : List α} (h : ∀ a, a ∈ l ↔ a ∈ l') : (distinct l).Perm (distinct l') := by
  rw [List.perm_ext_iff_of_nodup (nodup_distinct l) (nodup_distinct l')]
  intro a
  rw [mem_distinct, mem_distinct, h]

/-! ## First appearances -/

/-- The elements of a list, each once, in the order of the places where they come first. -/
structure FirstAppearances [DecidableEq α] (l d : List α) : Prop where
  mem_iff : ∀ a, a ∈ d ↔ a ∈ l
  ordered : d.Pairwise fun a b => l.idxOf a < l.idxOf b

theorem firstAppearances_distinct [DecidableEq α] (l : List α) : FirstAppearances l (distinct l) where
  mem_iff := fun _ => mem_distinct
  ordered := by
    induction l with
    | nil => exact List.Pairwise.nil
    | cons a rest ih =>
      have hplace : ∀ b ∈ (distinct rest).filter (· ≠ a), (a :: rest).idxOf b = rest.idxOf b + 1 := fun b hb =>
        List.idxOf_cons_ne rest (Ne.symm (of_decide_eq_true (List.mem_filter.1 hb).2))
      rw [distinct, List.pairwise_cons]
      refine ⟨fun b hb => ?_, (ih.filter _).imp_of_mem fun hb hc hlt => ?_⟩
      · rw [List.idxOf_cons_self, hplace b hb]
        exact Nat.succ_pos _
      · rw [hplace _ hb, hplace _ hc]
        exact Nat.succ_lt_succ hlt

theorem FirstAppearances.nodup [DecidableEq α] {l d : List α} (h : FirstAppearances l d) : d.Nodup := by
  apply h.ordered.imp
  rintro a _ hlt rfl
  exact Nat.lt_irrefl _ hlt

/-- In a list without copies, what a test picks out that holds of what comes of one element is that. -/
theorem filter_filterMap_of_nodup [DecidableEq α] {β : Type} {l : List α} (hl : l.Nodup) {f : α → Option β}
    {p : β → Bool} {a : α} (hp : ∀ b ∈ l, ∀ c, f b = some c → p c = decide (b = a)) :
    (l.filterMap f).filter p = if a ∈ l then (f a).toList else [] := by
  have hfilter : (l.filterMap f).filter p = (l.filter (· == a)).filterMap f := by
    rw [List.filter_filterMap, List.filterMap_filter]
    refine List.filterMap_congr fun b hb => ?_
    cases hc : f b with
    | none => rw [Option.filter_none, ite_self]
    | some c => by_cases hba : b = a <;> simp [Option.filter_some, hp b hb c hc, hba]
  rw [hfilter, List.filter_beq, hl.count]
  split
  · rw [List.replicate_one, List.filterMap_cons]
    cases f a <;> rfl
  · rfl

/-! ## More than one -/

theorem one_lt_length_of_ne {l : List α} {a b : α} (ha : a ∈ l) (hb : b ∈ l) (hne : a ≠ b) : 1 < l.length := by
  match l with
  | [] => cases ha
  | [c] => exact absurd ((List.mem_singleton.1 ha).trans (List.mem_singleton.1 hb).symm) hne
  | _ :: _ :: rest => exact Nat.one_lt_succ_succ rest.length

theorem one_lt_length_distinct_iff [DecidableEq α] {l : List α} :
    1 < (distinct l).length ↔ ∃ a ∈ l, ∃ b ∈ l, a ≠ b := by
  constructor
  · intro h
    have hnodup := nodup_distinct l
    have hmem : ∀ a, a ∈ distinct l → a ∈ l := fun a => mem_distinct.1
    match hd : distinct l with
    | [] => simp [hd] at h
    | [a] => simp [hd] at h
    | a :: b :: rest =>
      rw [hd] at hnodup hmem
      refine ⟨a, hmem a (by simp), b, hmem b (by simp), ?_⟩
      rintro rfl
      exact (List.nodup_cons.1 hnodup).1 List.mem_cons_self
  · rintro ⟨a, ha, b, hb, hne⟩
    exact one_lt_length_of_ne (mem_distinct.2 ha) (mem_distinct.2 hb) hne

/-! ## Sorted texts -/

theorem pairwise_le_mergeSort (texts : List String) :
    (texts.mergeSort fun a b => decide (a ≤ b)).Pairwise (· ≤ ·) := by
  refine (List.pairwise_mergeSort (fun a b c hab hbc => ?_) (fun a b => ?_) texts).imp of_decide_eq_true
  · exact decide_eq_true (String.le_trans (of_decide_eq_true hab) (of_decide_eq_true hbc))
  · rw [← Bool.decide_or]
    exact decide_eq_true (String.le_total a b)

/-- The order before sorting does not matter. -/
theorem mergeSort_eq_of_perm {texts texts' : List String} (h : texts.Perm texts') :
    (texts.mergeSort fun a b => decide (a ≤ b)) = texts'.mergeSort fun a b => decide (a ≤ b) :=
  List.Perm.eq_of_pairwise (fun _ _ _ _ => String.le_antisymm) (pairwise_le_mergeSort _) (pairwise_le_mergeSort _)
    ((List.mergeSort_perm _ _).trans (h.trans (List.mergeSort_perm _ _).symm))

theorem pairwise_lt_mergeSort_distinct (texts : List String) :
    ((distinct texts).mergeSort fun a b => decide (a ≤ b)).Pairwise (· < ·) := by
  have hnodup : ((distinct texts).mergeSort fun a b => decide (a ≤ b)).Nodup :=
    List.nodup_mergeSort.2 (nodup_distinct texts)
  refine (List.pairwise_and_iff.2 ⟨pairwise_le_mergeSort _, hnodup⟩).imp fun ⟨hle, hne⟩ => ?_
  exact String.not_le.1 fun hge => hne (String.le_antisymm hle hge)

end Registrar
