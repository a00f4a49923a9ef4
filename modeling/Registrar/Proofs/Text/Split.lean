import Registrar.Text.Split

/-!
# Pieces of a text

A text without a separator is one piece (`splitAt_of_not_mem`), and what stands before the first separator is a piece
(`splitAt_append`). So a text with a separator determines what stands on both sides of the first (`append_sep_inj`) and
of the last one (`append_sep_inj_last`): these are what the cuts give (`cutFirst_eq_some_iff`, `cutLast_eq_some_iff`).
What is added behind a text without adding a separator does not move the last cut (`cutLast_append`).
-/

namespace Registrar.Text

theorem splitAt_of_not_mem {sep : Char} {piece : List Char} (h : sep ∉ piece) : splitAt sep piece = [piece] := by
  induction piece with
  | nil => rfl
  | cons c rest ih =>
    rw [List.mem_cons, not_or] at h
    rw [splitAt, if_neg fun hc => h.1 hc.symm, ih h.2]

theorem splitAt_append {sep : Char} {piece : List Char} (h : sep ∉ piece) (rest : List Char) :
    splitAt sep (piece ++ sep :: rest) = piece :: splitAt sep rest := by
  induction piece with
  | nil => rw [List.nil_append, splitAt, if_pos rfl]
  | cons c cs ih =>
    rw [List.mem_cons, not_or] at h
    rw [List.cons_append, splitAt, if_neg fun hc => h.1 hc.symm, ih h.2]

theorem append_sep_inj {sep : Char} {front front' back back' : List Char} (h : sep ∉ front) (h' : sep ∉ front')
    (heq : front ++ sep :: back = front' ++ sep :: back') : front = front' ∧ back = back' := by
  have hpieces := congrArg (splitAt sep) heq
  rw [splitAt_append h, splitAt_append h'] at hpieces
  obtain rfl := (List.cons.inj hpieces).1
  exact ⟨rfl, (List.cons.inj (List.append_cancel_left heq)).2⟩

theorem append_sep_inj_last {sep : Char} {front front' back back' : List Char} (h : sep ∉ back) (h' : sep ∉ back')
    (heq : front ++ sep :: back = front' ++ sep :: back') : front = front' ∧ back = back' := by
  have hreverse := congrArg List.reverse heq
  rw [List.reverse_append, List.reverse_append, List.reverse_cons, List.reverse_cons, List.append_assoc,
    List.append_assoc, List.singleton_append, List.singleton_append] at hreverse
  obtain ⟨hback, hfront⟩ := append_sep_inj (fun hc => h (List.mem_reverse.1 hc)) (fun hc => h' (List.mem_reverse.1 hc))
    hreverse
  exact ⟨List.reverse_inj.1 hfront, List.reverse_inj.1 hback⟩

theorem cutFirst_append {sep : Char} {front : List Char} (h : sep ∉ front) (cs : List Char) :
    cutFirst sep (front ++ cs) = (cutFirst sep cs).map fun (before, after) => (front ++ before, after) := by
  have hfront : ∀ c ∈ front, decide (c ≠ sep) = true := fun c hc => decide_eq_true fun heq => h (heq ▸ hc)
  rw [cutFirst, List.dropWhile_append_of_pos hfront, List.takeWhile_append_of_pos hfront, cutFirst]
  cases cs.dropWhile fun c => decide (c ≠ sep) <;> rfl

theorem cutFirst_eq_some_iff {sep : Char} {cs front back : List Char} :
    cutFirst sep cs = some (front, back) ↔ cs = front ++ sep :: back ∧ sep ∉ front := by
  constructor
  · intro h
    rw [cutFirst] at h
    split at h
    · cases h
    · rename_i c rest hdrop
      obtain ⟨rfl, rfl⟩ := Prod.mk.inj (Option.some.inj h)
      -- what is left starts with the separator
      have hc : c = sep := by
        have hhead := List.head?_dropWhile_not (fun c => decide (c ≠ sep)) cs
        rw [hdrop] at hhead
        simpa using hhead
      refine ⟨?_, fun hmem => of_decide_eq_true (List.all_eq_true.1 List.all_takeWhile sep hmem) rfl⟩
      rw [← hc, ← hdrop, hc, List.takeWhile_append_dropWhile]
  · rintro ⟨rfl, hfront⟩
    rw [cutFirst_append hfront, cutFirst, List.dropWhile_cons_of_neg (by simp), List.takeWhile_cons_of_neg (by simp)]
    show some (front ++ [], back) = _
    rw [List.append_nil]

theorem cutLast_eq_some_iff {sep : Char} {cs front back : List Char} :
    cutLast sep cs = some (front, back) ↔ cs = front ++ sep :: back ∧ sep ∉ back := by
  have hreverse : cutLast sep cs = some (front, back) ↔
      cutFirst sep cs.reverse = some (back.reverse, front.reverse) := by
    rw [cutLast, Option.map_eq_some_iff]
    constructor
    · rintro ⟨⟨after, before⟩, hcut, hparts⟩
      obtain ⟨rfl, rfl⟩ := Prod.mk.inj hparts
      rw [List.reverse_reverse, List.reverse_reverse]
      exact hcut
    · intro hcut
      exact ⟨_, hcut, Prod.ext (List.reverse_reverse front) (List.reverse_reverse back)⟩
  rw [hreverse, cutFirst_eq_some_iff, List.mem_reverse, List.reverse_eq_iff, List.reverse_append, List.reverse_cons,
    List.reverse_reverse, List.reverse_reverse, List.append_assoc, List.singleton_append]

theorem cutLast_append {sep : Char} {back : List Char} (h : sep ∉ back) (cs : List Char) :
    cutLast sep (cs ++ back) = (cutLast sep cs).map fun (before, after) => (before, after ++ back) := by
  rw [cutLast, List.reverse_append, cutFirst_append (fun hc => h (List.mem_reverse.1 hc)), cutLast, Option.map_map,
    Option.map_map]
  congr 1
  funext ⟨after, before⟩
  show (before.reverse, (back.reverse ++ after).reverse) = _
  rw [List.reverse_append, List.reverse_reverse]
  rfl

end Registrar.Text
